/-
# Numbers of a fixed width

A number printed with zeros in front: its digits give it back, a text of digits is the number
it reads as, and among numbers of one width the order of the texts is that of the numbers.
-/
import Mathlib

namespace PaddedDecimals

def zeroPadded (width n : ℕ) : List Char :=
  List.replicate (width - (Nat.toDigits 10 n).length) '0' ++ Nat.toDigits 10 n

theorem length_zeroPadded {width n : ℕ} (hwidth : 0 < width) (h : n < 10 ^ width) :
    (zeroPadded width n).length = width := by
  have hlength := (Nat.length_toDigits_le_iff (by omega) hwidth).mpr h
  rw [zeroPadded, List.length_append, List.length_replicate]
  omega

theorem isDigit_of_mem_zeroPadded {width n : ℕ} {c : Char} (h : c ∈ zeroPadded width n) :
    c.isDigit = true := by
  rw [zeroPadded, List.mem_append] at h
  rcases h with h | h
  · rw [List.eq_of_mem_replicate h]
    decide
  · exact Nat.isDigit_of_mem_toDigits (by omega) (by omega) h

theorem ofDigitChars_zeroPadded (width n : ℕ) : Nat.ofDigitChars 10 (zeroPadded width n) 0 = n := by
  rw [zeroPadded, Nat.ofDigitChars_append]
  simp

theorem zeroPadded_one {n : ℕ} (h : n < 10) : zeroPadded 1 n = [n.digitChar] := by
  rw [zeroPadded, Nat.toDigits_of_lt_base h]
  rfl

theorem zeroPadded_succ {width : ℕ} (hwidth : 0 < width) (n : ℕ) :
    zeroPadded (width + 1) n = zeroPadded width (n / 10) ++ [(n % 10).digitChar] := by
  by_cases hsmall : n < 10
  · have hzero : n / 10 = 0 := by omega
    have hmod : n % 10 = n := by omega
    obtain ⟨rest, rfl⟩ : ∃ rest, width = rest + 1 := ⟨width - 1, by omega⟩
    simp [zeroPadded, Nat.toDigits_of_lt_base hsmall, hzero, hmod, ← List.replicate_succ']
  · rw [zeroPadded, Nat.toDigits_of_base_le (by omega) (by omega), List.length_append,
      List.length_singleton, Nat.add_sub_add_right, ← List.append_assoc, zeroPadded]

theorem zeroPadded_ofDigitChars {text : List Char} (h : ∀ c ∈ text, c.isDigit = true)
    (hne : text ≠ []) : zeroPadded text.length (Nat.ofDigitChars 10 text 0) = text := by
  induction text using List.reverseRecOn with
  | nil => exact absurd rfl hne
  | append_singleton front c ih =>
    have hc := Char.isDigit_iff_toNat.mp (h c (by simp))
    have hdigit : (c.toNat - 48).digitChar = c := by
      apply Char.toNat_inj.mp
      have hbounds : 48 ≤ c.toNat ∧ c.toNat ≤ 57 := hc
      rw [Nat.toNat_digitChar_of_lt_ten (by omega)]
      omega
    have hlt : c.toNat - 48 < 10 := by
      have hbounds : 48 ≤ c.toNat ∧ c.toNat ≤ 57 := hc
      omega
    have hvalue : Nat.ofDigitChars 10 (front ++ [c]) 0 =
        10 * Nat.ofDigitChars 10 front 0 + (c.toNat - 48) := by
      rw [Nat.ofDigitChars_append, Nat.ofDigitChars_cons, Nat.ofDigitChars_nil]
      rfl
    rw [hvalue, List.length_append, List.length_singleton]
    rcases List.eq_nil_or_concat front with rfl | ⟨start, d, hfront⟩
    · rw [List.length_nil, Nat.ofDigitChars_nil, Nat.zero_add, Nat.mul_zero, Nat.zero_add,
        zeroPadded_one hlt, hdigit, List.nil_append]
    · have hfront' : front ≠ [] := by simp [hfront]
      have hdiv : (10 * Nat.ofDigitChars 10 front 0 + (c.toNat - 48)) / 10 =
          Nat.ofDigitChars 10 front 0 := by omega
      have hmod : (10 * Nat.ofDigitChars 10 front 0 + (c.toNat - 48)) % 10 = c.toNat - 48 := by
        omega
      rw [zeroPadded_succ (List.length_pos_iff.mpr hfront'), hdiv, hmod, hdigit,
        ih (fun d hd => h d (List.mem_append_left _ hd)) hfront']

/-! ## Order -/

theorem append_lt_append {front front' back back' : List Char}
    (hlength : front.length = front'.length) (h : front < front') :
    front ++ back < front' ++ back' := by
  induction front generalizing front' with
  | nil =>
    rw [List.length_nil] at hlength
    rw [List.length_eq_zero_iff.mp hlength.symm] at h
    exact absurd h (by simp)
  | cons c rest ih =>
    cases front' with
    | nil => simp at hlength
    | cons c' rest' =>
      rw [List.cons_append, List.cons_append, List.cons_lt_cons_iff]
      rcases List.cons_lt_cons_iff.mp h with hlt | ⟨heq, hlt⟩
      · exact .inl hlt
      · exact .inr ⟨heq, ih (by simpa using hlength) hlt⟩

theorem digitChar_lt {m n : ℕ} (h : m < n) (hn : n < 10) : m.digitChar < n.digitChar := by
  rw [Char.lt_def, UInt32.lt_iff_toNat_lt]
  change m.digitChar.toNat < n.digitChar.toNat
  rw [Nat.toNat_digitChar_of_lt_ten hn, Nat.toNat_digitChar_of_lt_ten (by omega)]
  omega

theorem zeroPadded_lt {width m n : ℕ} (hwidth : 0 < width) (h : m < n) (hn : n < 10 ^ width) :
    zeroPadded width m < zeroPadded width n := by
  induction width, hwidth using Nat.le_induction generalizing m n with
  | base =>
    rw [zeroPadded_one (by omega), zeroPadded_one (by omega), List.cons_lt_cons_iff]
    exact .inl (digitChar_lt h (by omega))
  | succ width hwidth ih =>
    rw [Nat.pow_succ] at hn
    rw [zeroPadded_succ hwidth, zeroPadded_succ hwidth]
    have hdiv : n / 10 < 10 ^ width := by omega
    by_cases hfront : m / 10 = n / 10
    · rw [hfront]
      apply List.append_left_lt
      rw [List.cons_lt_cons_iff]
      exact .inl (digitChar_lt (by omega) (by omega))
    · apply append_lt_append
      · rw [length_zeroPadded hwidth (by omega), length_zeroPadded hwidth hdiv]
      · exact ih (by omega) hdiv

/-! ## Fields -/

/-- A field is a number in its width and the sign after it. -/
structure Field where
  width : ℕ
  value : ℕ
  after : Char

def render (fields : List Field) : List Char :=
  fields.flatMap fun field => zeroPadded field.width field.value ++ [field.after]

/-- The first fields that differ are of one width, and in the order of their values. -/
inductive FieldsLt : List Field → List Field → Prop
  | head {width m n : ℕ} {after : Char} {rest rest' : List Field} :
    0 < width → m < n → n < 10 ^ width →
      FieldsLt (⟨width, m, after⟩ :: rest) (⟨width, n, after⟩ :: rest')
  | tail {field : Field} {rest rest' : List Field} :
    FieldsLt rest rest' → FieldsLt (field :: rest) (field :: rest')

theorem render_lt {fields fields' : List Field} (h : FieldsLt fields fields') :
    render fields < render fields' := by
  induction h with
  | head hwidth hlt hn =>
    simp only [render, List.flatMap_cons, List.append_assoc]
    apply append_lt_append
    · rw [length_zeroPadded hwidth (by omega), length_zeroPadded hwidth hn]
    · exact zeroPadded_lt hwidth hlt hn
  | tail _ ih =>
    simp only [render, List.flatMap_cons]
    exact List.append_left_lt ih

end PaddedDecimals
