import Mathlib.Data.Nat.Digits
import Mathlib.Data.String.Basic

namespace MCVirt

/-- Exceptions raised by the modelled code: the classes of `mcvirt.exceptions` it names and
the Python builtins it runs into. The last three are raised by collaborators that are not in
the source, and carry what those report. -/
inductive Error where
  | UnknownStorageTypeException (msg : String)
  | HardDriveDoesNotExistException (msg : String)
  | InsufficientSpaceException (msg : String)
  | UnknownStorageBackendException (msg : String)
  | VmAlreadyStartedException (msg : String)
  | VmIsCloneException (msg : String)
  | ExternalStorageCommandErrorException (msg : String)
  | CannotMigrateLocalDiskException (msg : String)
  | MCVirtCommandException (msg : String)
  | TypeError (msg : String)
  | ValueError (msg : String)
  | IndexError (msg : String)
  | NotImplementedError
  | StorageBackendNotAvailableOnNode (backend node : String)
  | StorageBackendDoesNotExist (backend : String)
  | InsufficientPermissions (permission vm : String)
  deriving DecidableEq, Repr

/-- Python truth value of a string that may be `None`. -/
def truthy : Option String → Bool
  | some s => !s.isEmpty
  | none => false

@[simp] theorem truthy_none : truthy none = false := rfl

@[simp] theorem truthy_some (s : String) : truthy (some s) = decide (s ≠ "") := by
  have h := String.isEmpty_iff s
  cases hs : s.isEmpty <;> simp_all [truthy]

/-- `%s` formatting of a string that may be `None`. -/
def pyStr : Option String → String
  | some s => s
  | none => "None"

/-- The characters `str.isspace` accepts in Python 2. -/
def isSpace (c : Char) : Bool :=
  c == ' ' || c == '\t' || c == '\n' || c == '\r' || c == '\x0b' || c == '\x0c'

theorem isSpace_of_isDigit {c : Char} (h : c.isDigit = true) : isSpace c = false := by
  simp only [Char.isDigit, Bool.and_eq_true, decide_eq_true_eq] at h
  obtain ⟨h1, h2⟩ := h
  simp only [isSpace, Bool.or_eq_false_iff, beq_eq_false_iff_ne]
  refine ⟨⟨⟨⟨⟨?_, ?_⟩, ?_⟩, ?_⟩, ?_⟩, ?_⟩ <;> rintro rfl <;> simp_all [Char.le_def]

/-- `str.strip()` -/
def strip (s : List Char) : List Char :=
  ((s.dropWhile isSpace).reverse.dropWhile isSpace).reverse

/-- `str.split(sep)` -/
def split (s : List Char) (sep : Char) : List (List Char) := s.splitOn sep

/-- `l[i]` on a list. -/
def getItem {α : Type} (l : List α) (i : Nat) : Except Error α :=
  match l[i]? with
  | some a => .ok a
  | none => .error (.IndexError "list index out of range")

/-- Value of a run of decimal digits, most significant first. -/
def digitsValue (ds : List Char) : Nat :=
  ds.foldl (fun n c => 10 * n + (c.toNat - '0'.toNat)) 0

/-- One byte of a Python 2 `str` in its `repr` (`PyString_Repr`), `quote` being the quote
chosen: the quote and the backslash escaped, tab, newline and carriage return by name, and
bytes outside 0x20-0x7e as two lowercase hexadecimal digits. -/
def reprChar (quote c : Char) : List Char :=
  if c = quote ∨ c = '\x5c' then ['\x5c', c]
  else if c = '\t' then ['\x5c', 't']
  else if c = '\n' then ['\x5c', 'n']
  else if c = '\r' then ['\x5c', 'r']
  else if c.toNat < 0x20 ∨ 0x7f ≤ c.toNat then
    ['\x5c', 'x', Nat.digitChar (c.toNat % 256 / 16), Nat.digitChar (c.toNat % 16)]
  else [c]

/-- `repr` of a Python 2 `str`, whose characters are its bytes: in single quotes, unless it
holds a single quote and no double quote. -/
def pyRepr (s : List Char) : String :=
  let quote := if s.contains '\x27' && !s.contains '\x22' then '\x22' else '\x27'
  String.mk (quote :: s.flatMap (reprChar quote) ++ [quote])

/-- The optional sign `PyOS_strtol` reads: whether it is `-`, and what follows it. -/
def readSign : List Char → Bool × List Char
  | '-' :: r => (true, r)
  | '+' :: r => (false, r)
  | r => (false, r)

theorem readSign_of_isDigit {c : Char} {r : List Char} (hc : c.isDigit = true) :
    readSign (c :: r) = (false, c :: r) := by
  unfold readSign
  split <;> simp_all [Char.isDigit]

/-- `int(s)` on a Python 2 `str` in base 10 (`int_from_string` over `PyInt_FromString`), which
reads `s` as a C string, up to its first NUL byte. After leading whitespace come an optional
sign, whitespace again (`PyOS_strtoul` skips it), at least one digit and trailing whitespace;
otherwise the `ValueError` quotes in `repr` at most 200 bytes from the first one that is not
whitespace. A literal that a NUL byte cuts short is refused as well. -/
def int (s : List Char) : Except Error Int :=
  let cstr := s.takeWhile (· ≠ '\x00')
  let body := cstr.dropWhile isSpace
  let (neg, unsigned) := readSign body
  let ds := (unsigned.dropWhile isSpace).takeWhile Char.isDigit
  let rest := (unsigned.dropWhile isSpace).dropWhile Char.isDigit
  if ds = [] ∨ rest.dropWhile isSpace ≠ [] then
    .error (.ValueError ("invalid literal for int() with base 10: " ++ pyRepr (body.take 200)))
  else if cstr.length < s.length then .error (.ValueError "null byte in argument for int()")
  else .ok (if neg then -(digitsValue ds : Int) else digitsValue ds)

theorem dropWhile_of_head {α : Type} {p : α → Bool} {s : List α}
    (h : ∀ c ∈ s.head?, p c = false) : s.dropWhile p = s := by
  cases s with
  | nil => rfl
  | cons c s => simp [List.dropWhile_cons, h c rfl]

theorem strip_append {w₁ s w₂ : List Char} (hw : ∀ c ∈ w₁ ++ w₂, isSpace c = true)
    (hh : ∀ c ∈ s.head?, isSpace c = false) (hl : ∀ c ∈ s.getLast?, isSpace c = false) :
    strip (w₁ ++ s ++ w₂) = s := by
  simp only [List.mem_append] at hw
  have h₂ : ∀ c ∈ w₂.reverse, isSpace c = true := fun c hc => hw c (.inr (List.mem_reverse.1 hc))
  rcases s.eq_nil_or_concat with rfl | ⟨L, b, rfl⟩
  · simp only [strip, List.append_nil, List.reverse_nil, List.dropWhile_nil,
      List.dropWhile_eq_nil_iff.2 (fun c hc => hw c (List.mem_append.1 hc))]
  · have hs : (L.concat b ++ w₂).dropWhile isSpace = L.concat b ++ w₂ := by
      apply dropWhile_of_head
      cases L <;> simpa using hh
    simp only [strip, List.append_assoc, List.dropWhile_append_of_pos (fun c hc => hw c (.inl hc)),
      hs, List.reverse_append, List.dropWhile_append_of_pos h₂]
    rw [dropWhile_of_head (by simpa [List.head?_reverse] using hl), List.reverse_reverse]

theorem split_append_head {D r : List Char} {sep : Char} (hD : ∀ c ∈ D, c ≠ sep) :
    (split (D ++ r) sep).head? = (split r sep).head?.map (D ++ ·) := by
  induction D with
  | nil => simp
  | cons c D ih =>
    have hc : (c == sep) = false := by simpa using hD c (List.mem_cons_self _ _)
    simp only [split, List.splitOn, List.cons_append, List.splitOnP_cons, hc] at ih ⊢
    simp [List.head?_modifyHead, ih (fun x hx => hD x (List.mem_cons_of_mem _ hx)),
      Function.comp_def]

theorem digitsValue_eq_ofDigits (D : List Char) :
    digitsValue D = Nat.ofDigits 10 (D.reverse.map (·.toNat - '0'.toNat)) := by
  rw [digitsValue, ← List.foldr_reverse]
  induction D.reverse with
  | nil => rfl
  | cons c L ih => simp only [List.foldr_cons, List.map_cons, Nat.ofDigits_cons, ih]; ring

theorem int_digits {D : List Char} (hne : D ≠ []) (hD : ∀ c ∈ D, c.isDigit = true) :
    int D = .ok (digitsValue D) := by
  obtain ⟨c, rest, rfl⟩ := List.exists_cons_of_ne_nil hne
  have hc := hD c (List.mem_cons_self _ _)
  have hnul : (c :: rest).takeWhile (· ≠ '\x00') = c :: rest :=
    List.takeWhile_eq_self_iff.2 fun x hx => decide_eq_true fun h => by
      simpa [h, Char.isDigit] using hD x hx
  have hsp : (c :: rest).dropWhile isSpace = c :: rest := by simp [isSpace_of_isDigit hc]
  simp only [int, hnul, hsp, readSign_of_isDigit hc, List.takeWhile_eq_self_iff.2 hD,
    List.dropWhile_eq_nil_iff.2 hD, List.dropWhile_nil]
  simp

example : int " 12 x".toList =
    .error (.ValueError "invalid literal for int() with base 10: \x2712 x\x27") := rfl

/-- Python binds the keyword arguments of a call to the parameters of the function called: a
keyword that names none of them raises `TypeError` before the body runs, in the words of
CPython 2.7 (`"%.200s() got an unexpected keyword argument '%.400s'"`). -/
def bindKeywords (fn : String) (params keywords : List String) : Except Error Unit :=
  match keywords.find? (fun k => !params.contains k) with
  | some k => .error (.TypeError (String.mk (fn.toList.take 200) ++
      "() got an unexpected keyword argument \x27" ++ String.mk (k.toList.take 400) ++ "\x27"))
  | none => .ok ()

/-- `if cond: raise e` -/
def raiseIf {m : Type → Type} [MonadExceptOf Error m] [Pure m] (cond : Bool) (e : Error) :
    m Unit :=
  if cond then throw e else pure ()

@[simp] theorem raiseIf_false {m : Type → Type} [MonadExceptOf Error m] [Pure m] (e : Error) :
    (raiseIf false e : m Unit) = pure () := rfl

@[simp] theorem raiseIf_true {m : Type → Type} [MonadExceptOf Error m] [Pure m] (e : Error) :
    (raiseIf true e : m Unit) = throw e := rfl

section EStateM

variable {ε σ α β : Type}

@[simp] theorem EStateM.run_bind (x : EStateM ε σ α) (f : α → EStateM ε σ β) (s : σ) :
    (x >>= f).run s = match x.run s with
      | .ok a s => (f a).run s
      | .error e s => .error e s := rfl

@[simp] theorem EStateM.run_pure (a : α) (s : σ) : (pure a : EStateM ε σ α).run s = .ok a s :=
  rfl

@[simp] theorem EStateM.run_throw (e : Error) (s : σ) :
    (throw e : EStateM Error σ α).run s = .error e s := rfl

@[simp] theorem EStateM.run_modify (f : σ → σ) (s : σ) :
    (modify f : EStateM ε σ PUnit).run s = .ok () (f s) := rfl

@[simp] theorem EStateM.run_get (s : σ) : (get : EStateM ε σ σ).run s = .ok s s := rfl

@[simp] theorem EStateM.run_liftExcept_ok (a : α) (s : σ) :
    (liftExcept (Except.ok a : Except ε α) : EStateM ε σ α).run s = .ok a s := rfl

@[simp] theorem EStateM.run_liftExcept_error (e : ε) (s : σ) :
    (liftExcept (.error e) : EStateM ε σ α).run s = .error e s := rfl

end EStateM

theorem Except.bind_eq_ok {ε α β : Type} {x : Except ε α} {f : α → Except ε β} {b : β} :
    x >>= f = .ok b ↔ ∃ a, x = .ok a ∧ f a = .ok b := by
  cases x <;> simp [bind, Except.bind]

@[simp] theorem Except.pure_eq_ok {ε α : Type} {a b : α} : (pure a : Except ε α) = .ok b ↔ a = b := by
  simp [pure, Except.pure]

@[simp] theorem raiseIf_eq_ok {c : Bool} {e : Error} {u : Unit} :
    (raiseIf c e : Except Error Unit) = .ok u ↔ c = false := by
  cases c <;> simp [raiseIf, throw, throwThe, MonadExceptOf.throw, pure, Except.pure]

@[simp] theorem Except.toOption_eq_some {ε α : Type} {x : Except ε α} {a : α} :
    x.toOption = some a ↔ x = .ok a := by
  cases x <;> simp [Except.toOption]

@[simp] theorem Except.discard_eq_ok {ε α : Type} {x : Except ε α} {u : Unit} :
    (discard x : Except ε Unit) = .ok u ↔ ∃ a, x = .ok a := by
  cases x <;> simp [discard, Functor.mapConst, Except.map]

/-- A computation that raises from every state and leaves the state as it found it: a method
that never returns normally and changes nothing. -/
def Raises {σ α : Type} (x : EStateM Error σ α) : Prop := ∀ s, ∃ e, x.run s = .error e s

/-- A computation that changes no state, whether it returns or raises. -/
def ReadsOnly {σ α : Type} (x : EStateM Error σ α) : Prop :=
  ∀ s, (∃ a, x.run s = .ok a s) ∨ ∃ e, x.run s = .error e s

theorem ReadsOnly.liftExcept {σ α : Type} (x : Except Error α) :
    ReadsOnly (liftExcept x : EStateM Error σ α) := fun s => by
  cases x with
  | ok a => exact .inl ⟨a, rfl⟩
  | error e => exact .inr ⟨e, rfl⟩

theorem ReadsOnly.raiseIf {σ : Type} (c : Bool) (e : Error) :
    ReadsOnly (raiseIf c e : EStateM Error σ Unit) := fun s => by
  cases c
  · exact .inl ⟨(), rfl⟩
  · exact .inr ⟨e, rfl⟩

theorem ReadsOnly.bind {σ α β : Type} {x : EStateM Error σ α} {f : α → EStateM Error σ β}
    (hx : ReadsOnly x) (hf : ∀ a, ReadsOnly (f a)) : ReadsOnly (x >>= f) := fun s => by
  rw [EStateM.run_bind]
  rcases hx s with ⟨a, h⟩ | ⟨e, h⟩ <;> rw [h]
  · exact hf a s
  · exact .inr ⟨e, rfl⟩

namespace Raises

variable {σ α β : Type}

theorem bind {x : EStateM Error σ α} {f : α → EStateM Error σ β} (hx : ReadsOnly x)
    (hf : ∀ a, Raises (f a)) : Raises (x >>= f) := by
  intro s
  rw [EStateM.run_bind]
  rcases hx s with ⟨a, h⟩ | ⟨e, h⟩ <;> rw [h]
  · exact hf a s
  · exact ⟨e, rfl⟩

theorem bind_left {x : EStateM Error σ α} {f : α → EStateM Error σ β} (hx : Raises x) :
    Raises (x >>= f) := by
  intro s
  obtain ⟨e, h⟩ := hx s
  exact ⟨e, by rw [EStateM.run_bind, h]⟩

theorem liftExcept_error (e : Error) : Raises (liftExcept (.error e) : EStateM Error σ α) :=
  fun _ => ⟨e, rfl⟩

end Raises

/-- A `**kwargs` dictionary whose values are strings or `None`; its keys are distinct. -/
structure Kwargs where
  items : List (String × Option String)
  nodup : (items.map Prod.fst).Nodup

namespace Kwargs

def empty : Kwargs := ⟨[], List.nodup_nil⟩

def contains (c : Kwargs) (key : String) : Bool := c.items.any (·.1 == key)

/-- `config[key]`, for a key the dictionary holds. -/
def get? (c : Kwargs) (key : String) : Option (Option String) := c.items.lookup key

def erase (c : Kwargs) (key : String) : Kwargs :=
  ⟨c.items.filter (·.1 != key), (c.nodup.sublist ((c.items.filter_sublist).map _))⟩

def length (c : Kwargs) : Nat := c.items.length

end Kwargs

end MCVirt
