import TransactionGateway.Proofs.Acceptance
import TransactionGateway.Settings.Document

/-! # Placeholders and variables

The connection string of a document that names its variable, beside the one of the variable itself.

* **One variable.** Of the variables none but that of the connection string may have a value
  (`onlyUrl`), so the limits are the defaults.
* **Padding.** Where the variable is read itself its padding is left out, where it stands for a
  placeholder it is kept (`ofVariables_onlyUrl`, `ofYaml_placeholder`). Blanks alone are refused by
  both, for different reasons.
* **Agreement.** So both give settings or neither does, and the same ones just if there is no
  padding. -/

namespace TransactionGateway

open Text

/-- Variables of which none but that of the connection string may have a value. -/
def Variables.onlyUrl (url? : Option String) : Variables :=
  fun name => if name = Variable.databaseUrl then url? else none

/-- A document of a connection string that stands for its variable. -/
def placeholderText : String := "database_url: $\x7bDATABASE_URL\x7d"

namespace Settings

/-- The settings without the padding of the connection string. -/
def withoutPadding (s : Settings) : Settings := { s with databaseUrl := trimmed s.databaseUrl }

theorem allBlank_trimmed {url : String} (h : trim url.toList ≠ []) :
    allBlank (trimmed url).toList = false := by
  have hpadded : Padded (trimmed url).toList url.toList := trimmed_eq_iff.mp rfl
  rw [trimmed, String.toList_ofList] at hpadded ⊢
  exact hpadded.allBlank_eq_false h

/-- With the limits at their defaults all that counts is that the connection string is not
blank. -/
theorem validated_defaults (url : String) :
    validated { databaseUrl := url }
      = if allBlank url.toList then .error (.invalid .emptyUrl)
        else .ok { databaseUrl := url } := by
  have hpool : ({} : PoolLimits).validate = .ok () := by decide
  rw [validated, validate, hpool]
  split <;> rfl

theorem ofVariables_onlyUrl (url? : Option String) :
    ofVariables (.onlyUrl url?) = match url? with
      | none => .error (.missing Variable.databaseUrl)
      | some url =>
        if allBlank url.toList then .error (.missing Variable.databaseUrl)
        else .ok { databaseUrl := trimmed url } := by
  have hpool : PoolLimits.ofVariables (.onlyUrl url?) = .ok {} := rfl
  cases url? with
  | none => rfl
  | some url =>
    have hset : Variables.onlyUrl (some url) Variable.databaseUrl = some url := if_pos rfl
    dsimp only
    rw [ofVariables, urlOf_of_set hset]
    by_cases hblank : trim url.toList = []
    · rw [if_pos hblank, if_pos ((trim_eq_nil_iff _).mp hblank)]
      rfl
    · rw [if_neg hblank, if_neg (mt (trim_eq_nil_iff _).mpr hblank)]
      simp only [bind, Except.bind, hpool, validated_defaults, allBlank_trimmed hblank,
        Bool.false_eq_true, if_false]

theorem ofYaml_placeholder (url? : Option String) :
    ofYaml (.onlyUrl url?) placeholderText = match url? with
      | none => .error (.missing Variable.databaseUrl)
      | some url =>
        if allBlank url.toList then .error (.invalid .emptyUrl)
        else .ok { databaseUrl := url } := by
  have hspelled : spelledOut placeholderText = .ok { databaseUrl := "$\x7bDATABASE_URL\x7d" } := by
    decide +kernel
  have hname : placeholder? "$\x7bDATABASE_URL\x7d" = some Variable.databaseUrl := by
    decide +kernel
  rw [ofYaml, hspelled]
  simp only [bind, Except.bind, resolved, hname]
  cases url? with
  | none => rfl
  | some url => exact validated_defaults url

/-- A connection string by its placeholder is that of the variable, but for the padding: both give
settings or neither does, those of the variable have no padding, and they are the same just if the
value has none or is blank. -/
theorem ofYaml_placeholder_toOption (url? : Option String) :
    (ofVariables (.onlyUrl url?)).toOption
        = (ofYaml (.onlyUrl url?) placeholderText).toOption.map withoutPadding
      ∧ ((ofVariables (.onlyUrl url?)).toOption
          = (ofYaml (.onlyUrl url?) placeholderText).toOption
        ↔ ∀ url, url? = some url → allBlank url.toList = true ∨ Padded url.toList url.toList) := by
  rw [ofVariables_onlyUrl, ofYaml_placeholder]
  cases url? with
  | none => simp [Except.toOption]
  | some url =>
    by_cases hblank : allBlank url.toList
    · simp [hblank, Except.toOption]
    · simp [hblank, Except.toOption, withoutPadding, ← trimmed_eq_iff]

/-- The placeholder does not always stand for what the variable itself gives. -/
theorem not_always_sameUrl :
    ¬ ∀ url?, (ofVariables (.onlyUrl url?)).toOption
      = (ofYaml (.onlyUrl url?) placeholderText).toOption := by
  intro h
  have hpadded : ofYaml (.onlyUrl (some " mysql://db")) placeholderText
      = .ok { databaseUrl := " mysql://db" } := by decide +kernel
  have hread : ofVariables (.onlyUrl (some " mysql://db"))
      = .ok { databaseUrl := "mysql://db" } := by decide +kernel
  have hsame := h (some " mysql://db")
  rw [hpadded, hread] at hsame
  simp [Except.toOption] at hsame

end Settings

end TransactionGateway
