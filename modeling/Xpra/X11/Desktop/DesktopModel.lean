import Mathlib.Data.List.Basic

/-!
# Legacy size hints of the desktop model (`xpra/x11/desktop/desktop_model.py`)

`get_legacy_size_hints(screen_sizes)` turns the screen sizes RandR offers into
the size hints of the desktop window:

* `maximum-size` is `max_size[sorted(max_size.keys())[-1]]`, where `max_size`
  maps every area `w * h` to the last listed size of that area;
* for every increment of `INC_VALUES` it counts the listed sizes that have the
  size one increment larger in both dimensions also listed;
* when the best increment has more than 16 such hits it adds five hints whose
  values are written into the code: `base-size` and `minimum-size` 640×640,
  `increment` 128×128, and the aspect ratios 1:3 and 3:1.

`update_size_hints` calls it only when RandR is there, `resize_exact` is off,
and the list of screen sizes is not empty.

* The maximum size.  `maxSize_eq` reads the dict as the last listed size of an
  area, and `getLegacySizeHints_eq_some` says what the function returns on
  every non-empty list: a last listed size of maximal area, followed by the
  five fixed hints exactly when more than 16 hits were counted.
* Consistency.  `HintsConsistent` is what the hints owe each other:
  `maximum-size` at least `minimum-size` in both dimensions, and an aspect
  ratio between the two bounds.  With the fixed hints this holds exactly when
  the maximum size is at least 640×640 with an aspect ratio between 1:3 and
  3:1 (`hintsConsistent_fixedHints`); `getLegacySizeHints_spec` puts the two
  together.
* `update_size_hints`.  `updateSizeHints_of_sizes` is the branch that calls
  `get_legacy_size_hints`, and `updateSizeHints_branches` says what each branch
  sets: no hints, the fixed size, or the legacy hints of a non-empty list, so
  that the `IndexError` of an empty list is never reached.
  `getLegacySizeHints_square_modes` is a list of modes on which the hints it
  sets are not consistent.

The search for the first increment with the most hits finds a value that the
function then never reads, and is left out.
-/

namespace Xpra.X11.Desktop

/-- `INC_VALUES`. -/
def INC_VALUES : List Nat := [16, 32, 64, 128, 256]

/-- Size hints: the `size_hints` dict, as its entries in insertion order. -/
abbrev SizeHints := List (String × Nat × Nat)

/-- `max_size` after the loop over `screen_sizes`, as a lookup: each size
overwrites the entry of its area. -/
def maxSize (screenSizes : List (Nat × Nat)) : Nat → Option (Nat × Nat) :=
  screenSizes.foldl (fun d s k => if k = s.1 * s.2 then some s else d k) fun _ => none

/-- `inc_hits[inc]`: the listed sizes whose size one increment larger in both
dimensions is listed too. -/
def incHits (screenSizes : List (Nat × Nat)) (inc : Nat) : Nat :=
  (screenSizes.filter fun s => (s.1 + inc, s.2 + inc) ∈ screenSizes).length

/-- `max(inc_hits.values())`. -/
def maxHits (screenSizes : List (Nat × Nat)) : Nat :=
  (INC_VALUES.map (incHits screenSizes)).foldl max 0

/-- The five hints added when more than 16 hits were counted. -/
def fixedHints : SizeHints :=
  [("base-size", 640, 640), ("minimum-size", 640, 640), ("increment", 128, 128),
    ("minimum-aspect-ratio", 1, 3), ("maximum-aspect-ratio", 3, 1)]

/-- `get_legacy_size_hints(screen_sizes)`; `none` when `sorted([])[-1]` raises
`IndexError`. -/
def getLegacySizeHints (screenSizes : List (Nat × Nat)) : Option SizeHints := do
  let maxPixels ← (screenSizes.map fun s => s.1 * s.2).max?
  let maximumSize ← maxSize screenSizes maxPixels
  pure (("maximum-size", maximumSize) :: if maxHits screenSizes > 16 then fixedHints else [])

/-- `update_size_hints()` for a screen of `w` by `h`, with the answer of
`RandR.get_xrr_screen_sizes()` (`none` when it raises `XError`): the hints it
sets, `none` if it raises. -/
def updateSizeHints (w h : Nat) (hasRandr resizeExact : Bool)
    (screenSizes : Option (List (Nat × Nat))) : Option SizeHints :=
  let fixedSize : SizeHints := [("maximum-size", w, h), ("minimum-size", w, h), ("base-size", w, h)]
  if hasRandr then
    if resizeExact then some []
    else
      match screenSizes with
      | none => some []
      | some [] => some fixedSize
      | some sizes => getLegacySizeHints sizes
  else some fixedSize

/-! ## The maximum size -/

/-- The dict maps an area to the last listed size of that area. -/
theorem maxSize_eq (screenSizes : List (Nat × Nat)) (k : Nat) :
    maxSize screenSizes k = screenSizes.reverse.find? fun s => s.1 * s.2 = k := by
  suffices h : ∀ d : Nat → Option (Nat × Nat),
      screenSizes.foldl (fun d s k => if k = s.1 * s.2 then some s else d k) d k =
        (screenSizes.reverse.find? fun s => s.1 * s.2 = k).or (d k) by
    simpa using h fun _ => none
  induction screenSizes with
  | nil => simp
  | cons s sizes ih =>
    intro d
    rw [List.foldl_cons, ih, List.reverse_cons, List.find?_append]
    by_cases hk : s.1 * s.2 = k
    · simp [hk, Option.or_assoc]
    · simp [hk, Ne.symm hk]

/-- A size that `find?` picks from the reversed list is the last listed one
with its area. -/
theorem eq_append_of_find?_reverse {screenSizes : List (Nat × Nat)} {k : Nat} {s : Nat × Nat}
    (h : (screenSizes.reverse.find? fun s => s.1 * s.2 = k) = some s) :
    s.1 * s.2 = k ∧ ∃ pre post, screenSizes = pre ++ s :: post ∧ ∀ t ∈ post, t.1 * t.2 ≠ k := by
  obtain ⟨hs, as, bs, hrev, has⟩ := List.find?_eq_some.1 h
  refine ⟨by simpa using hs, bs.reverse, as.reverse, ?_, fun t ht => by simpa using has t (by simpa using ht)⟩
  rw [← List.reverse_reverse screenSizes, hrev]
  simp

/-! ## Consistency -/

/-- What the hints owe each other: `maximum-size` is at least `minimum-size` in
both dimensions, and its aspect ratio `w / h` lies between
`minimum-aspect-ratio` and `maximum-aspect-ratio`, each a ratio `a : b`. -/
def HintsConsistent (hints : SizeHints) : Prop :=
  ∀ w h, hints.lookup "maximum-size" = some (w, h) →
    (∀ mw mh, hints.lookup "minimum-size" = some (mw, mh) → mw ≤ w ∧ mh ≤ h) ∧
    (∀ a b, hints.lookup "minimum-aspect-ratio" = some (a, b) → a * h ≤ b * w) ∧
    (∀ a b, hints.lookup "maximum-aspect-ratio" = some (a, b) → b * w ≤ a * h)

/-- A maximum size alone is consistent. -/
theorem hintsConsistent_maximumSize (w h : Nat) : HintsConsistent [("maximum-size", w, h)] := by
  simp [HintsConsistent, List.lookup_cons]

/-- With the fixed hints, the maximum size must be at least 640×640 and have an
aspect ratio between 1:3 and 3:1. -/
theorem hintsConsistent_fixedHints (w h : Nat) :
    HintsConsistent (("maximum-size", w, h) :: fixedHints) ↔
      640 ≤ w ∧ 640 ≤ h ∧ h ≤ 3 * w ∧ w ≤ 3 * h := by
  simp [HintsConsistent, fixedHints, List.lookup_cons, and_assoc]

/-- The hints `get_legacy_size_hints` returns, a maximum size alone or followed
by the fixed hints, are consistent exactly when the fixed hints, if there, allow
that maximum size. -/
theorem hintsConsistent_legacy (w h : Nat) (c : Prop) [Decidable c] :
    HintsConsistent (("maximum-size", w, h) :: if c then fixedHints else []) ↔
      (c → 640 ≤ w ∧ 640 ≤ h ∧ h ≤ 3 * w ∧ w ≤ 3 * h) := by
  by_cases hc : c
  · simp only [hc, if_true, hintsConsistent_fixedHints, true_implies]
  · simp only [hc, if_false, hintsConsistent_maximumSize, false_implies]

/-! ## `get_legacy_size_hints` -/

/-- On a non-empty list the function returns the last listed size of maximal
area as `maximum-size`, then the fixed hints when more than 16 hits were
counted. -/
theorem getLegacySizeHints_eq_some {screenSizes : List (Nat × Nat)} (hne : screenSizes ≠ []) :
    ∃ w h, getLegacySizeHints screenSizes =
        some (("maximum-size", w, h) :: if maxHits screenSizes > 16 then fixedHints else []) ∧
      (∃ pre post, screenSizes = pre ++ (w, h) :: post ∧ ∀ s ∈ post, s.1 * s.2 ≠ w * h) ∧
      ∀ s ∈ screenSizes, s.1 * s.2 ≤ w * h := by
  obtain ⟨m, hm⟩ : ∃ m, (screenSizes.map fun s => s.1 * s.2).max? = some m :=
    Option.ne_none_iff_exists'.1 (by simpa using hne)
  obtain ⟨hmem, hle⟩ := List.max?_eq_some_iff'.1 hm
  obtain ⟨t, ht, htm⟩ := List.mem_map.1 hmem
  obtain ⟨⟨w, h⟩, hfind⟩ : ∃ s, (screenSizes.reverse.find? fun s => s.1 * s.2 = m) = some s :=
    Option.isSome_iff_exists.1 (List.find?_isSome.2 ⟨t, List.mem_reverse.2 ht, by simpa using htm⟩)
  obtain ⟨hwh, hlast⟩ := eq_append_of_find?_reverse hfind
  refine ⟨w, h, ?_, hwh ▸ hlast, fun s hs => hwh ▸ hle _ (List.mem_map_of_mem _ hs)⟩
  simp [getLegacySizeHints, hm, maxSize_eq, hfind]

/-- On every non-empty list of screen sizes `get_legacy_size_hints` returns
without raising.  `maximum-size` is a listed size of maximal area, the last
one listed; the five fixed hints follow exactly when more than 16 hits were
counted; and the hints are consistent exactly when there are no fixed hints,
or the maximum size is at least 640×640 with an aspect ratio between 1:3 and
3:1. -/
theorem getLegacySizeHints_spec {screenSizes : List (Nat × Nat)} (hne : screenSizes ≠ []) :
    ∃ w h, getLegacySizeHints screenSizes =
        some (("maximum-size", w, h) :: if maxHits screenSizes > 16 then fixedHints else []) ∧
      (∃ pre post, screenSizes = pre ++ (w, h) :: post ∧ ∀ s ∈ post, s.1 * s.2 ≠ w * h) ∧
      (∀ s ∈ screenSizes, s.1 * s.2 ≤ w * h) ∧
      (HintsConsistent (("maximum-size", w, h) ::
          if maxHits screenSizes > 16 then fixedHints else []) ↔
        (maxHits screenSizes > 16 → 640 ≤ w ∧ 640 ≤ h ∧ h ≤ 3 * w ∧ w ≤ 3 * h)) := by
  obtain ⟨w, h, hget, hlast, hmax⟩ := getLegacySizeHints_eq_some hne
  exact ⟨w, h, hget, hlast, hmax, hintsConsistent_legacy w h _⟩

theorem getLegacySizeHints_spec_one :
    [(1024, 768)] ≠ [] ∧ ∃ w h, getLegacySizeHints [(1024, 768)] =
        some (("maximum-size", w, h) :: if maxHits [(1024, 768)] > 16 then fixedHints else []) ∧
      (∃ pre post, [(1024, 768)] = pre ++ (w, h) :: post ∧ ∀ s ∈ post, s.1 * s.2 ≠ w * h) ∧
      (∀ s ∈ [(1024, 768)], s.1 * s.2 ≤ w * h) ∧
      (HintsConsistent (("maximum-size", w, h) ::
          if maxHits [(1024, 768)] > 16 then fixedHints else []) ↔
        (maxHits [(1024, 768)] > 16 → 640 ≤ w ∧ 640 ≤ h ∧ h ≤ 3 * w ∧ w ≤ 3 * h)) :=
  ⟨by simp, getLegacySizeHints_spec (by simp)⟩

/-! ## `update_size_hints` -/

/-- With RandR, `resize_exact` off and a non-empty list of screen sizes,
`update_size_hints` sets the legacy size hints. -/
theorem updateSizeHints_of_sizes (w h : Nat) {sizes : List (Nat × Nat)} (hne : sizes ≠ []) :
    updateSizeHints w h true false (some sizes) = getLegacySizeHints sizes := by
  cases sizes
  · exact absurd rfl hne
  · rfl

/-- What `update_size_hints` sets on each branch, whatever RandR answers: no
hints with `resize_exact` or an `XError`; the fixed size without RandR or with
an empty list of screen sizes; and on a non-empty list the legacy hints, a
last listed size of maximal area as `maximum-size` followed by the fixed hints
exactly when more than 16 hits were counted.  The branches cover every input,
so it never raises. -/
theorem updateSizeHints_branches (w h : Nat) (hasRandr resizeExact : Bool)
    (screenSizes : Option (List (Nat × Nat))) :
    (hasRandr = true → (resizeExact = true ∨ screenSizes = none) →
      updateSizeHints w h hasRandr resizeExact screenSizes = some []) ∧
    ((hasRandr = false ∨ resizeExact = false ∧ screenSizes = some []) →
      updateSizeHints w h hasRandr resizeExact screenSizes =
        some [("maximum-size", w, h), ("minimum-size", w, h), ("base-size", w, h)]) ∧
    (∀ sizes, hasRandr = true → resizeExact = false → screenSizes = some sizes → sizes ≠ [] →
      ∃ mw mh, updateSizeHints w h hasRandr resizeExact screenSizes =
          some (("maximum-size", mw, mh) :: if maxHits sizes > 16 then fixedHints else []) ∧
        (∃ pre post, sizes = pre ++ (mw, mh) :: post ∧ ∀ s ∈ post, s.1 * s.2 ≠ mw * mh) ∧
        ∀ s ∈ sizes, s.1 * s.2 ≤ mw * mh) := by
  refine ⟨?noHints, ?fixedSize, ?legacy⟩
  case noHints =>
    rintro rfl (rfl | rfl)
    · rfl
    · cases resizeExact <;> rfl
  case fixedSize =>
    rintro (rfl | ⟨rfl, rfl⟩)
    · rfl
    · cases hasRandr <;> rfl
  case legacy =>
    rintro sizes rfl rfl rfl hne
    rw [updateSizeHints_of_sizes w h hne]
    exact getLegacySizeHints_eq_some hne

/-- Eighteen square modes 16 pixels apart, from 100×100 to 372×372. -/
def squareModes : List (Nat × Nat) := (List.range 18).map fun k => (100 + 16 * k, 100 + 16 * k)

/-- Seventeen of the square modes have the mode 16 pixels larger listed, so
`update_size_hints` sets the fixed hints with them, and `minimum-size` 640×640
exceeds `maximum-size` 372×372. -/
theorem getLegacySizeHints_square_modes :
    (∀ s ∈ squareModes, 0 < s.1 ∧ 0 < s.2) ∧
      (∀ w h, updateSizeHints w h true false (some squareModes) =
        some (("maximum-size", 372, 372) :: fixedHints)) ∧
      ¬ HintsConsistent (("maximum-size", 372, 372) :: fixedHints) := by
  have hget : getLegacySizeHints squareModes = some (("maximum-size", 372, 372) :: fixedHints) :=
    rfl
  refine ⟨by decide, fun w h => ?_, by rw [hintsConsistent_fixedHints]; omega⟩
  rw [updateSizeHints_of_sizes w h (by decide), hget]

end Xpra.X11.Desktop
