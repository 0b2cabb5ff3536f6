import Mathlib.Data.List.Basic

/-!
# The U2F registration tool (`xpra/gtk/dialogs/u2f_tool.py`)

`main()` registers a U2F device and saves the key handle and the public key in
the user's configuration directory.  On the file system it does this:

1. it reads `u2f-keyhandle.hex` in every configuration directory and stops,
   with exit code `1`, at the first one that holds a key handle;
2. it creates the first configuration directory, `conf_dir`, if it is missing;
3. it opens the device, and stops with exit code `1` if that raises;
4. it writes the new key handle to `u2f-keyhandle.hex` in `conf_dir`;
5. a `while True` loop picks `public_key_filename`, the first name
   `os.path.join(conf_dir, "u2f%s-pub.hex" % c)` that does not exist;
6. it writes the public key there and returns `0`.

The loop never changes its counter `i`, so `c` stays `""` and every pass tries
`u2f-pub.hex`.  `pickPublicKeyFilename` is the loop run for a bounded number of
passes, and `pickPublicKeyFilename_eq` its closed form: the loop ends at once
when `u2f-pub.hex` is missing, and never when it exists.
`pickPublicKeyFilename_terminates_iff` says so for every file system.

`main` models the six steps.  A first registration leaves `u2f-pub.hex`
behind, and the tool's own advice for registering again is to delete the key
handle file only.  `main_hangs` says that a registration from such a file
system never returns, and `main_hangs_after_advice` runs the two
registrations.

Paths are taken as already expanded (`osexpand` is the identity on them) and
`os.path.join` is the POSIX one.  The dialogs that only inform (the existing
public keys found by `glob`, the prompt to touch the device) change no file
and are left out, and so is the parsing of `registration_data`: the device's
answer is the two hex strings `main` writes.
-/

namespace Xpra.Gtk.Dialogs.U2fTool

/-! ## Paths and files -/

/-- `posixpath.join(a, b)`: `b` when it is absolute, `a + b` when `a` is empty
or ends with `/`, and `a + "/" + b` otherwise. -/
def pathJoin (a b : String) : String :=
  if b.data.head? = some '/' then b
  else
    match a.data.getLast? with
    | none | some '/' => a ++ b
    | some _ => a ++ "/" ++ b

/-- The file system: every path that exists, with what reading it returns. -/
def FileSystem : Type := List (String × String)

instance : DecidableEq FileSystem := inferInstanceAs (DecidableEq (List (String × String)))

/-- `os.path.exists(p)`. -/
def pathExists (fs : FileSystem) (p : String) : Prop := p ∈ (fs : List (String × String)).map Prod.fst

instance (fs : FileSystem) (p : String) : Decidable (pathExists fs p) :=
  inferInstanceAs (Decidable (_ ∈ _))

/-- `load_binary_file(p)`: the contents, or nothing for a missing file. -/
def loadBinaryFile (fs : FileSystem) (p : String) : String :=
  ((fs : List (String × String)).lookup p).getD ""

/-- `open(p, "wb").write(contents)`: the file holds `contents` from now on. -/
def writeFile (fs : FileSystem) (p contents : String) : FileSystem :=
  (p, contents) :: (fs : List (String × String)).filter fun e => e.1 ≠ p

/-- `os.mkdir(p)`. -/
def mkdir (fs : FileSystem) (p : String) : FileSystem := (p, "") :: (fs : List (String × String))

/-- `bytes.rstrip(b" \n\r")`. -/
def rstripBlanks (s : String) : String :=
  ⟨(s.data.reverse.dropWhile fun c => c == ' ' || c == '\n' || c == '\r').reverse⟩

/-! ## The file-name loop -/

/-- The name one pass of the loop tries with counter `i`:
`os.path.join(conf_dir, "u2f%s-pub.hex" % c)`, where `c` is `""`, or the text
`-%i` once `i > 1`. -/
def publicKeyCandidate (confDir : String) (i : Nat) : String :=
  pathJoin confDir ("u2f" ++ (if i > 1 then "-%i" else "") ++ "-pub.hex")

/-- The `while True` loop of `main` that picks `public_key_filename`, run for at
most `fuel` passes with counter `i`: the name it breaks on, or `none` while it
still loops.  The body does not change `i`. -/
def pickPublicKeyFilename (fs : FileSystem) (confDir : String) (i : Nat) : Nat → Option String
  | 0 => none
  | fuel + 1 =>
    if pathExists fs (publicKeyCandidate confDir i) then pickPublicKeyFilename fs confDir i fuel
    else some (publicKeyCandidate confDir i)

/-- The counter `main` starts the loop with tries `u2f-pub.hex`. -/
@[simp] theorem publicKeyCandidate_one (confDir : String) :
    publicKeyCandidate confDir 1 = pathJoin confDir "u2f-pub.hex" := rfl

/-- The loop breaks in its first pass, on the name it tries, or never: every
pass tries the same name. -/
theorem pickPublicKeyFilename_eq (fs : FileSystem) (confDir : String) (i fuel : Nat) :
    pickPublicKeyFilename fs confDir i fuel =
      if fuel = 0 ∨ pathExists fs (publicKeyCandidate confDir i) then none
      else some (publicKeyCandidate confDir i) := by
  induction fuel with
  | zero => rfl
  | succ fuel ih =>
    by_cases h : pathExists fs (publicKeyCandidate confDir i) <;> simp [pickPublicKeyFilename, h, ih]

/-- The loop that picks the public key's file name ends exactly when
`u2f-pub.hex` is missing from `conf_dir`, and then picks that file.  When the
file exists the loop never ends: `i` stays `1`, and every pass tries the same
name. -/
theorem pickPublicKeyFilename_terminates_iff (fs : FileSystem) (confDir : String) :
    ((∃ fuel p, pickPublicKeyFilename fs confDir 1 fuel = some p) ↔
        ¬ pathExists fs (pathJoin confDir "u2f-pub.hex")) ∧
      ∀ fuel p, pickPublicKeyFilename fs confDir 1 fuel = some p →
        p = pathJoin confDir "u2f-pub.hex" ∧ ¬ pathExists fs p := by
  simp only [pickPublicKeyFilename_eq, publicKeyCandidate_one]
  refine ⟨⟨?_, fun h => ⟨1, pathJoin confDir "u2f-pub.hex", by simp [h]⟩⟩, fun fuel p hp => ?_⟩
  · rintro ⟨fuel, p, hp⟩ hex
    simp [hex] at hp
  · split at hp
    next => cases hp
    next hcond => cases hp; exact ⟨rfl, fun hex => hcond (.inr hex)⟩

/-! ## `main` -/

/-- What `Register` gives `main` to write: the public key and the key handle,
as `hexstr` prints them. -/
structure Registration where
  publicKeyHex : String
  keyHandleHex : String
  deriving DecidableEq, Repr

/-- The exception `main` lets out: `assert key_handle_filenames` with no
configuration directory. -/
inductive U2fError where
  | assertionError
  deriving DecidableEq, Repr

/-- How `main` returns: the exit code, the lines of the last dialog, and the
file system afterwards. -/
structure MainResult where
  code : Nat
  messages : List String
  files : FileSystem
  deriving DecidableEq

/-- The key handle file of a configuration directory. -/
def keyHandleFilename (confDir : String) : String := pathJoin confDir "u2f-keyhandle.hex"

/-- `repr` of a path without quotes or backslashes in it. -/
def pyRepr (s : String) : String := "\x27" ++ s ++ "\x27"

/-- The dialog for an existing key handle in `p`. -/
def existingKeyHandleMessage (p : String) : List String :=
  [s!" found an existing key handle in file \x27{p}\x27:", " skipping U2F registration",
    " delete this file if you want to register again"]

/-- The dialog after a registration. -/
def savedMessage (keyHandleFile publicKeyFile : String) : List String :=
  ["key handle saved to file:", pyRepr keyHandleFile, "public key saved to file:",
    pyRepr publicKeyFile]

/-- `main()`, with `get_user_conf_dirs()` as `confDirs`, the device's answer
(`.error` with the text of what `GetLocalU2FInterface` raised), and at most
`fuel` passes of the file-name loop: `none` while that loop still runs. -/
def main (confDirs : List String) (device : Except String Registration) (fs : FileSystem)
    (fuel : Nat) : Option (Except U2fError MainResult) :=
  match confDirs with
  | [] => some (.error .assertionError)
  | confDir :: _ =>
    match (confDirs.map keyHandleFilename).find? fun p => rstripBlanks (loadBinaryFile fs p) != "" with
    | some p => some (.ok ⟨1, existingKeyHandleMessage p, fs⟩)
    | none =>
      let fs := if pathExists fs confDir then fs else mkdir fs confDir
      match device with
      | .error e => some (.ok ⟨1, ["Failed to open local U2F device:", e], fs⟩)
      | .ok r =>
        let fs := writeFile fs (keyHandleFilename confDir) r.keyHandleHex
        (pickPublicKeyFilename fs confDir 1 fuel).map fun p =>
          .ok ⟨0, savedMessage (keyHandleFilename confDir) p, writeFile fs p r.publicKeyHex⟩

@[simp] theorem pathExists_writeFile (fs : FileSystem) (p contents q : String) :
    pathExists (writeFile fs p contents) q ↔ q = p ∨ pathExists fs q := by
  by_cases h : q = p <;> simp [pathExists, writeFile, h]

@[simp] theorem pathExists_mkdir (fs : FileSystem) (p q : String) :
    pathExists (mkdir fs p) q ↔ q = p ∨ pathExists fs q := by
  simp [pathExists, mkdir]

/-- With no key handle on disk and a device that registers, `main` never
returns when `u2f-pub.hex` already exists in the first configuration
directory: writing the key handle and creating the directory keep it, and the
file-name loop spins on it. -/
theorem main_hangs {confDir : String} (rest : List String) (r : Registration) {fs : FileSystem}
    (hkey : ∀ d ∈ confDir :: rest, rstripBlanks (loadBinaryFile fs (keyHandleFilename d)) = "")
    (hpub : pathExists fs (pathJoin confDir "u2f-pub.hex")) (fuel : Nat) :
    main (confDir :: rest) (.ok r) fs fuel = none := by
  have hnone : ((confDir :: rest).map keyHandleFilename).find?
      (fun p => rstripBlanks (loadBinaryFile fs p) != "") = none :=
    List.find?_eq_none.2 (by simpa using hkey)
  simp only [main, hnone, pickPublicKeyFilename_eq, publicKeyCandidate_one]
  by_cases hdir : pathExists fs confDir <;> simp [hdir, hpub]

/-- A configuration directory, and a device whose registration gives a public
key and a key handle. -/
def confDir₀ : String := "/home/u/.xpra"

def device₀ : Registration := ⟨"04ab", "c0de"⟩

/-- The file system after the first registration, once the key handle file is
deleted as the tool advises. -/
def afterAdvice : FileSystem := [("/home/u/.xpra/u2f-pub.hex", "04ab"), ("/home/u/.xpra", "")]

/-- The first registration, from an empty configuration directory, writes
`u2f-keyhandle.hex` and `u2f-pub.hex`; with the key handle file deleted, the
second registration never returns. -/
theorem main_hangs_after_advice :
    main [confDir₀] (.ok device₀) [(confDir₀, "")] 1 =
        some (.ok ⟨0, savedMessage "/home/u/.xpra/u2f-keyhandle.hex" "/home/u/.xpra/u2f-pub.hex",
          [("/home/u/.xpra/u2f-pub.hex", "04ab"), ("/home/u/.xpra/u2f-keyhandle.hex", "c0de"),
            ("/home/u/.xpra", "")]⟩) ∧
      ∀ fuel, main [confDir₀] (.ok device₀) afterAdvice fuel = none :=
  ⟨rfl, main_hangs [] device₀ (by decide) (by decide)⟩

end Xpra.Gtk.Dialogs.U2fTool
