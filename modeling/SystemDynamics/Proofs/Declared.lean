import SystemDynamics.Proofs.NotANumber
import SystemDynamics.Declaration.Reader

/-!
# Numbers in declarations

The numbers that declarations hold come from literals. So each of them is a number, if perhaps an
infinite one (`Declaration.ofText_proper`).
-/

namespace SystemDynamics

/-- What a text writes as a number is one. -/
theorem Reading.isNaN_number? {cs : List Char} {x : Float} (h : Reading.number? cs = some x) :
    x.isNaN = false := by
  simp only [Reading.number?] at h
  split at h
  · cases h
    split
    · rw [isNaN_neg]
      exact Reading.Literal.isNaN_value _
    · exact Reading.Literal.isNaN_value _
  · cases h

theorem PropertyValue.read_proper {cs : List Char} {x : Float}
    (h : PropertyValue.read cs = .number x) : x.isNaN = false := by
  simp only [PropertyValue.read] at h
  split at h
  · cases h
    decide
  · split at h <;> cases h
  · split at h
    · rename_i y hy
      cases h
      exact Reading.isNaN_number? hy
    · cases h

/-- The numbers among the properties of the declaration are numbers. -/
def Declaration.Proper (d : Declaration) : Prop :=
  ∀ e ∈ d.properties.entries, ∀ x, e.2 = .number x → x.isNaN = false

theorem Line.property?_proper {cs : List Char} {key : String} {value : PropertyValue} {x : Float}
    (h : Line.property? cs = some (key, value)) (hx : value = .number x) : x.isNaN = false := by
  unfold Line.property? at h
  split at h
  · cases h
  · cases h
    exact PropertyValue.read_proper hx

theorem Line.constant?_proper {cs : List Char} {name : String} {value : PropertyValue} {x : Float}
    (h : Line.constant? cs = some (name, value)) (hx : value = .number x) : x.isNaN = false := by
  unfold Line.constant? at h
  split at h
  · cases h
  · split at h
    · simp only at h
      split at h
      · cases h
      · cases h
        exact PropertyValue.read_proper hx
    · cases h

theorem Line.read_proper {cs : List Char} {name : String} {value : PropertyValue} {x : Float}
    (h : Line.read cs = .constant name value) (hx : value = .number x) : x.isNaN = false := by
  unfold Line.read at h
  split at h
  · cases h
  · split at h
    · rename_i hc
      cases h
      exact Line.constant?_proper hc hx
    · cases h
    · cases h

namespace Reader

/-- The declarations of the reader, the open one among them, hold numbers only. -/
def Proper (r : Reader) : Prop :=
  (∀ d ∈ r.declarations, d.Proper) ∧ ∀ d, r.current = some d → d.Proper

theorem closeBlock_proper {r : Reader} (h : r.Proper) (number : Nat) :
    (r.closeBlock number).result.Proper := by
  unfold closeBlock
  split
  · exact h
  · rename_i d hd
    refine ⟨fun e he => ?_, fun e he => nomatch he⟩
    rcases List.mem_append.1 he with he | he
    · exact h.1 e he
    · rw [List.mem_singleton.1 he]
      exact h.2 d hd

theorem feedBlock_proper {r : Reader} {d : Declaration} (h : r.Proper) (hd : d.Proper)
    (number : Nat) (line : List Char) : (r.feedBlock d number line).result.Proper := by
  unfold feedBlock
  split
  · split
    · refine ⟨h.1, fun e he => ?_⟩
      cases he
      exact hd
    · exact h
  · split
    · rename_i hp
      refine ⟨h.1, fun e he => ?_⟩
      cases he
      intro entry hentry x hx
      rcases Table.mem_put hentry with rfl | hentry
      · exact Line.property?_proper hp hx
      · exact hd entry hentry x hx
    · split
      · exact closeBlock_proper h number
      · exact h

theorem feed_proper {r : Reader} (h : r.Proper) (number : Nat) (raw : List Char) :
    (r.feed number raw).result.Proper := by
  unfold feed
  simp only
  split
  · exact h
  · rename_i name value hline
    refine ⟨fun e he => ?_, h.2⟩
    rcases List.mem_append.1 he with he | he
    · exact h.1 e he
    · rw [List.mem_singleton.1 he]
      intro entry hentry x hx
      rcases Table.mem_put hentry with rfl | hentry
      · exact Line.read_proper hline hx
      · exact (List.not_mem_nil hentry).elim
  · refine ⟨h.1, fun e he => ?_⟩
    cases he
    exact fun entry hentry => (List.not_mem_nil hentry).elim
  · split
    · rename_i d hd
      exact feedBlock_proper h (h.2 d hd) number _
    · split
      · exact closeBlock_proper h number
      · exact h

theorem feedAll_proper : ∀ (lines : List (List Char)) {r : Reader} (number : Nat), r.Proper →
    (r.feedAll number lines).result.Proper
  | [], _, _, h => h
  | line :: rest, _, number, h => feedAll_proper rest (number + 1) (feed_proper h number line)

end Reader

/-- The declarations that a text makes hold numbers only. -/
theorem Declaration.ofText_proper (text : String) :
    ∀ d ∈ (Declaration.ofText text).result, d.Proper := by
  have hstart : Reader.start.Proper :=
    ⟨fun d hd => (List.not_mem_nil hd).elim, fun d hd => nomatch hd⟩
  exact (Reader.feedAll_proper (Text.lines text.toList) 1 hstart).1

end SystemDynamics
