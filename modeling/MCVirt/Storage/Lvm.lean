import MCVirt.Python

namespace MCVirt

/-- What the LVM driver reaches on its node, whose state is `σ`: `System.runCommand`, giving
the standard output of a command or, on a non-zero exit, the text of the
`MCVirtCommandException` it raises; and `os.path.lexists`. -/
structure Host (σ : Type) where
  runCommand : List String → σ → Except String (List Char) × σ
  lexists : String → σ → Bool

/-- `LvmVolume`: the logical volume `name` in the volume group `location` of its backend. -/
structure LvmVolume where
  name : String
  location : String
  deriving DecidableEq, Repr

namespace LvmVolume

variable {σ : Type} (host : Host σ) (v : LvmVolume)

def getPath : String := "/dev/" ++ v.location ++ "/" ++ v.name

/-- `System.runCommand(command_args)` inside the `try` block of a command method: a failure is
raised again as `ExternalStorageCommandErrorException`, headed by `what`. -/
def runWrapped (what : String) (args : List String) : EStateM Error σ (List Char) := fun s =>
  match host.runCommand args s with
  | (.ok out, s') => .ok out s'
  | (.error e, s') => .error (.ExternalStorageCommandErrorException (what ++ ":\n" ++ e)) s'

def createArgs (size : Int) : List String :=
  ["/sbin/lvcreate", v.location, "--name", v.name, "--size", toString size ++ "M"]

def create (size : Int) : EStateM Error σ Unit :=
  discard <| runWrapped host "Error whilst creating disk logical volume" (v.createArgs size)

def checkExists : EStateM Error σ Bool := fun s => .ok (host.lexists v.getPath s) s

@[simp] theorem run_checkExists (s : σ) :
    (v.checkExists host).run s = .ok (host.lexists v.getPath s) s := rfl

def delete (ignoreNonExistent : Bool) : EStateM Error σ Unit := do
  let remove := discard <|
    runWrapped host "Error whilst removing logical volume" ["lvremove", "-f", v.getPath]
  if ignoreNonExistent then
    if (← v.checkExists host) then remove
  else remove

def activate : EStateM Error σ Unit :=
  discard <| runWrapped host "Error whilst activating logical volume"
    ["lvchange", "-a", "y", "--yes", v.getPath]

/-- `snapshot`, the one command method with no `try` block. -/
def snapshot (destination : LvmVolume) (size : String) : EStateM Error σ Unit := fun s =>
  match host.runCommand ["lvcreate", "--snapshot", v.getPath, "--name", destination.name,
      "--size", size] s with
  | (.ok _, s') => .ok () s'
  | (.error e, s') => .error (.MCVirtCommandException e) s'

def deactivate : EStateM Error σ Unit := throw .NotImplementedError

/-- The parameters of `resize` after `self`. -/
def resizeParams : List String := ["size"]

def resizeArgs (size : Int) : List String :=
  ["/sbin/lvresize", "--size", toString size ++ "M", v.getPath]

def resize (size : Int) : EStateM Error σ Unit :=
  discard <| runWrapped host "Error whilst resizing disk logical volume" (v.resizeArgs size)

def getSizeArgs : List String :=
  ["lvs", "--nosuffix", "--noheadings", "--units", "m", "--options", "lv_size", v.getPath]

/-- The last two lines of `get_size`, from the `lvs` report to whole megabytes. -/
def parseSize (out : List Char) : Except Error Int := do
  let lvSize ← getItem (split (strip out) '.') 0
  int lvSize

def getSize : EStateM Error σ Int := do
  let out ← runWrapped host "Error whilst obtaining the size of the logical volume" v.getSizeArgs
  liftExcept (parseSize out)

/-- An `lvs` size report: whitespace, the digits `D`, optionally a point and the digits `F`,
whitespace. -/
def sizeReport (w₁ D : List Char) (F : Option (List Char)) (w₂ : List Char) : List Char :=
  w₁ ++ (D ++ (F.map ('.' :: ·)).getD []) ++ w₂

section Report

variable {w₁ w₂ D : List Char} {F : Option (List Char)}

theorem split_number_head (hD : ∀ c ∈ D, c.isDigit = true) :
    (split (D ++ (F.map ('.' :: ·)).getD []) '.')[0]? = some D := by
  have hsep : ∀ c ∈ D, c ≠ '.' := fun c hc h => by simpa [h] using hD c hc
  rw [← List.head?_eq_getElem?, split_append_head hsep]
  cases F <;> simp [split, List.splitOn, List.splitOnP_cons]

theorem parseSize_sizeReport (hw : ∀ c ∈ w₁ ++ w₂, isSpace c = true) (hne : D ≠ [])
    (hD : ∀ c ∈ D, c.isDigit = true) (hF : ∀ f ∈ F, ∀ c ∈ f, c.isDigit = true) :
    parseSize (sizeReport w₁ D F w₂) = .ok (digitsValue D) := by
  obtain ⟨d, D', rfl⟩ := List.exists_cons_of_ne_nil hne
  have hlast : ∀ c ∈ (d :: D' ++ (F.map ('.' :: ·)).getD []).getLast?, isSpace c = false := by
    intro c hc
    have hc' := List.mem_of_getLast?_eq_some hc
    simp only [List.mem_append] at hc'
    rcases hc' with hc' | hc'
    · exact isSpace_of_isDigit (hD c hc')
    · cases F with
      | none => simp at hc'
      | some f =>
        rcases List.mem_cons.1 hc' with rfl | hc'
        · decide
        · exact isSpace_of_isDigit (hF f rfl c hc')
  rw [sizeReport, parseSize, strip_append hw
    (by simpa using isSpace_of_isDigit (hD d (List.mem_cons_self _ _))) hlast]
  simp only [getItem, split_number_head hD, bind, Except.bind]
  exact int_digits hne hD

/-- `get_size` reads an `lvs` report of whole and fractional megabytes as the whole
megabytes, and raises nothing. -/
theorem getSize_sizeReport {σ : Type} (host : Host σ) (v : LvmVolume) {s s' : σ}
    (hrun : host.runCommand v.getSizeArgs s = (.ok (sizeReport w₁ D F w₂), s'))
    (hw : ∀ c ∈ w₁ ++ w₂, isSpace c = true) (hne : D ≠ []) (hD : ∀ c ∈ D, c.isDigit = true)
    (hF : ∀ f ∈ F, ∀ c ∈ f, c.isDigit = true) :
    v.getSize host s =
      .ok ((Nat.ofDigits 10 (D.reverse.map (·.toNat - '0'.toNat)) : ℕ) : Int) s' := by
  simp only [getSize, bind, EStateM.bind, runWrapped, hrun, parseSize_sizeReport hw hne hD hF,
    liftExcept, pure, EStateM.pure, digitsValue_eq_ofDigits]

def lvsReportHost : Host Unit := ⟨fun _ s => (.ok "  10.50\n".toList, s), fun _ _ => true⟩

theorem getSize_tenAndAHalf :
    lvsReportHost.runCommand (getSizeArgs ⟨"disk", "vg"⟩) () =
        (.ok (sizeReport [' ', ' '] ['1', '0'] (some ['5', '0']) ['\n']), ()) ∧
      getSize lvsReportHost ⟨"disk", "vg"⟩ () = .ok 10 () := by
  have h : lvsReportHost.runCommand (getSizeArgs ⟨"disk", "vg"⟩) () =
      (.ok (sizeReport [' ', ' '] ['1', '0'] (some ['5', '0']) ['\n']), ()) := rfl
  refine ⟨h, ?_⟩
  simpa [Nat.ofDigits] using getSize_sizeReport lvsReportHost ⟨"disk", "vg"⟩ h (by decide) (by decide)
    (by decide) (by decide)

end Report

end LvmVolume

end MCVirt
