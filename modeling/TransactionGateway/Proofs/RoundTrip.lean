import TransactionGateway.Proofs.Agreement

/-! # Settings read back

Settings in order are written as a document from which they are read again.

* **Connection string.** Whatever its characters are, it is written in a style that can hold it, and
  read as what it was (`Printer.readsAs_value`).
* **Limits.** They are a choice of all the limits, written as its entries, and every word fits its
  own width (`PoolLimits.limits?_asChoice`).
* **What is done with them.** A connection string that names no variable is left as it is, and a
  validation that has passed once passes again. -/

namespace TransactionGateway

open Text Yaml

/-- A written text is read as that text, in its style. -/
theorem Yaml.Printer.readsAs_value (s : List Char) :
    Ahead.ReadsAs 1 (value s) s (styleOf s) := by
  rw [value]
  obtain ⟨hstyle, hfits⟩ | ⟨hstyle, hfits⟩ | ⟨hstyle, hshown, hne⟩ | hstyle := styleOf_cases s <;>
    rw [hstyle]
  · exact Ahead.readsAs_plain hfits 1
  · exact Ahead.readsAs_single hfits 1
  · simpa [Block.lastLine] using Ahead.readsAs_literal hshown hne
  · exact Ahead.readsAs_double s 1

/-- The limits as a choice of them all. -/
def PoolLimits.asChoice (limits : PoolLimits) : LimitChoice where
  maxConnections := some limits.maxConnections.toNat
  minIdle := some limits.minIdle.toNat
  connectionTimeoutSecs := some limits.connectionTimeoutSecs.toNat
  idleTimeoutSecs := some limits.idleTimeoutSecs.toNat
  maxLifetimeSecs := some limits.maxLifetimeSecs.toNat
  testOnCheckOut := some limits.testOnCheckOut

namespace PoolLimits

variable (limits : PoolLimits)

theorem entries_asChoice : limits.asChoice.entries = limits.entries := rfl

theorem word32?_toNat (n : UInt32) : word32? n.toNat = some n := by
  have h : n.toNat ≤ largest32 := Nat.le_of_lt_succ n.toNat_lt
  rw [word32?, if_pos h, UInt32.ofNat_toNat]

theorem word64?_toNat (n : UInt64) : word64? n.toNat = some n := by
  have h : n.toNat ≤ largest64 := Nat.le_of_lt_succ n.toNat_lt
  rw [word64?, if_pos h, UInt64.ofNat_toNat]

theorem limits?_asChoice : limits.asChoice.limits? = some limits := by
  simp [LimitChoice.limits?, asChoice, word32?_toNat, word64?_toNat]

end PoolLimits

namespace Settings

theorem spelledOut_toYaml (s : Settings) : spelledOut s.toYaml = .ok s := by
  obtain ⟨d, hd⟩ := exists_spelledOut (Printer.readsAs_value s.databaseUrl.toList)
    (Printer.allKept_value _) (fun p hp => s.pool.asChoice.isPlainPair_of_mem hp)
    s.pool.asChoice.nodup_entries
  rw [s.pool.asChoice.foldlM_entries d, s.pool.limits?_asChoice, s.pool.entries_asChoice,
    ← toYaml_eq_documentText, Option.map_some, String.ofList_toList] at hd
  cases h : spelledOut s.toYaml with
  | error e => simp [h, Except.toOption] at hd
  | ok t => simpa [h, Except.toOption] using hd

/-- Settings in order are read back from their document, with whatever variables. -/
theorem ofYaml_toYaml {s : Settings} (hvalid : s.validate = .ok ())
    (hname : ∀ name : String, trim s.databaseUrl.toList
      ≠ "$\x7b".toList ++ (name.toList ++ ['\x7d'])) (vars : Variables) :
    ofYaml vars s.toYaml = .ok s := by
  have hresolved : s.resolved vars = .ok s := by
    rw [resolved, placeholder?_eq_none_iff.mpr hname]
  have hvalidated : s.validated = .ok s := by
    rw [validated, hvalid]
    rfl
  simp only [ofYaml, spelledOut_toYaml, bind, Except.bind, hresolved, hvalidated]

/-- Settings whose connection string has blanks at its ends, breaks, quotes, marks, a control
character and a placeholder inside. -/
def unruly : Settings where
  databaseUrl := " \x07'pg':# ~\r\n\t\"$\x7b0x1F\x7d\"\u2028 "
  pool := { minIdle := 15 }

theorem ofYaml_toYaml_unruly :
    unruly.validate = .ok ()
      ∧ (∀ name : String, trim unruly.databaseUrl.toList
          ≠ "$\x7b".toList ++ (name.toList ++ ['\x7d']))
      ∧ ∀ vars, ofYaml vars unruly.toYaml = .ok unruly := by
  have hname : ∀ name : String, trim unruly.databaseUrl.toList
      ≠ "$\x7b".toList ++ (name.toList ++ ['\x7d']) := by
    intro name h
    have hhead : (trim unruly.databaseUrl.toList).head? = some '\x07' := by decide
    rw [h] at hhead
    simp at hhead
  exact ⟨by decide, hname, ofYaml_toYaml (by decide) hname⟩

end Settings

end TransactionGateway
