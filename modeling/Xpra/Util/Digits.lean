import Mathlib.Data.List.Basic
import Mathlib.Algebra.Group.Nat.Basic

/-!
# The digits that `Nat.toDigits` writes

Python's `%d`, `%i` and `%x` write a number's digits, most significant first,
and the model writes them with `Nat.toDigits`.  `toDigits_eq_map` says what
`Nat.toDigits b n` is, for every base `b > 1`: the characters
`Nat.digitChar k` of a non-empty list of digits `k < b`, whose value in base
`b` is `n`, and which is no longer than any `w` with `n < b ^ w`.
`foldl_map_digitChar` turns a reader that gets each digit character back into
the value of the digits, and `digitsValueIn_zeros_append` lets zero padding in
front.

Consumers: `Xpra.Gtk.Dialogs.QrcodeClient`, which reads the port of a URI back
in base 10, and `Xpra.Platform.Win32.Common`, which reads the fields of a GUID
back in base 16.
-/

namespace Xpra.Util

/-- The value of a list of digits in base `b`, most significant first. -/
def digitsValueIn (b : Nat) (ks : List Nat) : Nat :=
  ks.foldl (fun n k => b * n + k) 0

/-- Leading zeros do not change the value. -/
theorem digitsValueIn_zeros_append (b z : Nat) (ks : List Nat) :
    digitsValueIn b (List.replicate z 0 ++ ks) = digitsValueIn b ks := by
  induction z with
  | zero => rfl
  | succ z ih => simpa [digitsValueIn, List.replicate_succ] using ih

/-- A reader that takes the character of each digit `k < b` back to `k` computes the value
of the digits. -/
theorem foldl_map_digitChar {b : Nat} (f : Char → Nat) (hf : ∀ k < b, f (Nat.digitChar k) = k)
    (ks : List Nat) (hks : ∀ k ∈ ks, k < b) (acc : Nat) :
    (ks.map Nat.digitChar).foldl (fun n c => b * n + f c) acc = ks.foldl (fun n k => b * n + k) acc := by
  induction ks generalizing acc with
  | nil => rfl
  | cons k ks ih =>
    simp only [List.map_cons, List.foldl_cons, List.mem_cons, forall_eq_or_imp] at hks ⊢
    rw [hf k hks.1, ih hks.2]

theorem digitsValueIn_append_singleton (b : Nat) (ks : List Nat) (k : Nat) :
    digitsValueIn b (ks ++ [k]) = b * digitsValueIn b ks + k := by
  simp [digitsValueIn, List.foldl_append]

/-- `toDigitsCore` puts the digits of `n` in front of what it has written. -/
theorem toDigitsCore_eq {b : Nat} (hb : 1 < b) (fuel n : Nat) (ds : List Char) (h : n < fuel) :
    ∃ ks : List Nat, ks ≠ [] ∧ (∀ k ∈ ks, k < b) ∧ digitsValueIn b ks = n ∧
      (∀ w, 0 < w → n < b ^ w → ks.length ≤ w) ∧
      Nat.toDigitsCore b fuel n ds = ks.map Nat.digitChar ++ ds := by
  induction fuel generalizing n ds with
  | zero => omega
  | succ fuel ih =>
    have hmod : n % b < b := Nat.mod_lt _ (by omega)
    have hstep : Nat.toDigitsCore b (fuel + 1) n ds =
        if n / b = 0 then Nat.digitChar (n % b) :: ds
        else Nat.toDigitsCore b fuel (n / b) (Nat.digitChar (n % b) :: ds) := rfl
    rw [hstep]
    split
    · next h0 =>
      refine ⟨[n % b], by simp, by simpa using hmod, ?_, fun w hw _ => by simpa using hw, rfl⟩
      have hb0 : 0 < b := by omega
      have : n < b := (Nat.div_eq_zero_iff hb0).1 h0
      simp [digitsValueIn, Nat.mod_eq_of_lt this]
    · next h0 =>
      have hlt : n / b < n := Nat.div_lt_self (Nat.pos_of_ne_zero fun h => h0 (by simp [h])) hb
      obtain ⟨ks, hne, hks, hval, hlen, he⟩ :=
        ih (n / b) (Nat.digitChar (n % b) :: ds) (by omega)
      refine ⟨ks ++ [n % b], by simp, ?_, ?_, fun w hw hn => ?_, by simp [he]⟩
      · simpa [or_imp, forall_and] using ⟨hks, hmod⟩
      · rw [digitsValueIn_append_singleton, hval, Nat.div_add_mod]
      · have hbn : b ≤ n := by
          by_contra hc
          exact h0 ((Nat.div_eq_zero_iff (by omega)).2 (by omega))
        obtain ⟨v, rfl⟩ : ∃ v, w = v + 1 := ⟨w - 1, by omega⟩
        have hv : 0 < v := by
          by_contra hc
          obtain rfl : v = 0 := by omega
          rw [Nat.zero_add, Nat.pow_one] at hn
          omega
        have : n / b < b ^ v := by
          rw [Nat.div_lt_iff_lt_mul (by omega)]
          rwa [← Nat.pow_succ]
        simpa using hlen v hv this

/-- `Nat.toDigits b n`: the characters of the digits of `n` in base `b`. -/
theorem toDigits_eq_map {b : Nat} (hb : 1 < b) (n : Nat) :
    ∃ ks : List Nat, ks ≠ [] ∧ (∀ k ∈ ks, k < b) ∧ digitsValueIn b ks = n ∧
      (∀ w, 0 < w → n < b ^ w → ks.length ≤ w) ∧ Nat.toDigits b n = ks.map Nat.digitChar := by
  obtain ⟨ks, hne, hks, hval, hlen, he⟩ := toDigitsCore_eq hb (n + 1) n [] (by omega)
  exact ⟨ks, hne, hks, hval, hlen, by rw [← List.append_nil (ks.map _), ← he]; rfl⟩

end Xpra.Util
