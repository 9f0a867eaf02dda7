import MCVirt.HardDrive.Local

namespace MCVirt

/-- `isAvailable(storage_factory, node_drbd)` of a hard drive class on a node. -/
def StorageType.isAvailable (n : Node) : StorageType → Bool
  | .Local => Local.isAvailable n.storageFactory
  | .Drbd => n.drbdAvailable

namespace Factory

def STORAGE_TYPES : List StorageType := [.Local, .Drbd]

def getClass (storageType : Option String) : Except Error StorageType :=
  match STORAGE_TYPES.find? (fun c => storageType == some c.name) with
  | some c => .ok c
  | none => .error (.UnknownStorageTypeException
      ("Attempted to initialise an unknown storage type: " ++ pyStr storageType))

/-- `_getAvailableStorageTypes` on the node `n`. -/
def getAvailableStorageTypes (n : Node) : List StorageType :=
  STORAGE_TYPES.filter (·.isAvailable n)

/-- Lines 47-59 of `getObject`: the storage type of the lookup, and the overrides left once
`storage_type` is taken out of them. -/
def lookupStorageType (vm : VirtualMachine) (config : Kwargs) : Option String × Kwargs :=
  let storageType := if truthy vm.storageType then vm.storageType else none
  if config.contains "storage_type" then
    (if storageType.isNone then (config.get? "storage_type").join else storageType,
      config.erase "storage_type")
  else (storageType, config)

/-- `cache_key` of `getObject`. -/
def cacheKey (vm : VirtualMachine) (diskId : Option Nat) (config : Kwargs) : CacheKey :=
  (vm.name, diskId, (lookupStorageType vm config).1.getD "")

/-- `disable_cache` of `getObject`: an override other than `storage_type` was given. -/
def cacheDisabled (vm : VirtualMachine) (config : Kwargs) : Bool :=
  (lookupStorageType vm config).2.length != 0

/-- `del Factory.CACHED_OBJECTS[key]`, when the key is there. -/
def evict (key : CacheKey) (d : Daemon) : Daemon :=
  { d with cachedObjects := Function.update d.cachedObjects key none }

/-- `Factory.CACHED_OBJECTS[key] = o` -/
def store (key : CacheKey) (o : HardDrive) (d : Daemon) : Daemon :=
  { d with cachedObjects := Function.update d.cachedObjects key (some o) }

/-- Lines 70-72 of `getObject`: with the cache disabled, the key is evicted. -/
def evictIf (disableCache : Bool) (key : CacheKey) (d : Daemon) : Daemon :=
  if disableCache then evict key d else d

@[simp] theorem evictIf_false (k : CacheKey) (d : Daemon) : evictIf false k d = d := rfl

@[simp] theorem evictIf_nextId (dis : Bool) (k : CacheKey) (d : Daemon) :
    (evictIf dis k d).nextId = d.nextId := by
  unfold evictIf; split <;> rfl

@[simp] theorem evictIf_registered (dis : Bool) (k : CacheKey) (d : Daemon) :
    (evictIf dis k d).registered = d.registered := by
  unfold evictIf; split <;> rfl

theorem evictIf_cachedObjects (dis : Bool) (k : CacheKey) (d : Daemon) :
    (evictIf dis k d).cachedObjects =
      if dis then Function.update d.cachedObjects k none else d.cachedObjects := by
  unfold evictIf; split <;> rfl

theorem evictIf_cachedObjects_key (dis : Bool) (k : CacheKey) (d : Daemon) :
    (evictIf dis k d).cachedObjects k = if dis then none else d.cachedObjects k := by
  rw [evictIf_cachedObjects]; split <;> simp

theorem cachedObjects_of_evictIf {dis : Bool} {k k' : CacheKey} {d : Daemon} {o : HardDrive}
    (h : (evictIf dis k d).cachedObjects k' = some o) : d.cachedObjects k' = some o := by
  rw [evictIf_cachedObjects] at h
  split at h
  · rw [Function.update_apply] at h
    split at h
    · cases h
    · exact h
  · exact h

@[simp] theorem store_cachedObjects (k : CacheKey) (o : HardDrive) (d : Daemon) :
    (store k o d).cachedObjects = Function.update d.cachedObjects k (some o) := rfl

@[simp] theorem store_nextId (k : CacheKey) (o : HardDrive) (d : Daemon) :
    (store k o d).nextId = d.nextId := rfl

@[simp] theorem store_registered (k : CacheKey) (o : HardDrive) (d : Daemon) :
    (store k o d).registered = d.registered := rfl

/-- Lines 74-79 of `getObject`: build the object and register it, and store it unless the
cache is disabled. -/
def buildObject (ctx : Context) (vm : VirtualMachine) (diskId : Option Nat)
    (storageType : Option String) (config : Kwargs) (key : CacheKey) (disableCache : Bool) :
    EStateM Error Daemon HardDrive := do
  let cls ← liftExcept (getClass storageType)
  let hardDriveObject ← construct ctx cls { vm, diskId, config := config.items }
  modify (registerObject ctx.pyroInitialised hardDriveObject)
  modify fun d => if disableCache then d else store key hardDriveObject d
  pure hardDriveObject

/-- `getObject`. Its last line returns `Factory.CACHED_OBJECTS[cache_key]`, which is the object
just stored on a miss. -/
def getObject (ctx : Context) (vm : VirtualMachine) (diskId : Option Nat) (config : Kwargs) :
    EStateM Error Daemon HardDrive := do
  let (storageType, config) := lookupStorageType vm config
  let key := (vm.name, diskId, storageType.getD "")
  let disableCache := config.length != 0
  modify (evictIf disableCache key)
  match (← get).cachedObjects key with
  | some o => pure o
  | none => buildObject ctx vm diskId storageType config key disableCache

/-- Lines 99-106 of `ensure_hdd_valid`: with no storage type given, the only one available. -/
def onlyStorageType (n : Node) : Except Error String :=
  match getAvailableStorageTypes n with
  | [c] => .ok c.name
  | [] => .error (.UnknownStorageTypeException "There are no storage types available")
  | _ :: _ :: _ => .error (.UnknownStorageTypeException "Storage type must be specified")

/-- Lines 92-106 of `ensure_hdd_valid`: the storage type to use on the node `host`. -/
def resolveStorageType (host : String) (n : Node) (storageType : Option String) :
    Except Error String :=
  if truthy storageType then
    if pyStr storageType ∈ (getAvailableStorageTypes n).map StorageType.name then
      .ok (pyStr storageType)
    else
      .error (.UnknownStorageTypeException (pyStr storageType ++ " is not supported by node " ++
        host))
  else onlyStorageType n

/-- Lines 109-124 of `ensure_hdd_valid`: the storage backend to use on the node `host`. -/
def resolveStorageBackend (host : String) (n : Node) (storageType : String)
    (nodes : List String) : Option StorageBackend → Except Error StorageBackend
  | some b => do
    b.ensureAvailableOnNode host
    pure b
  | none =>
    match n.storageFactory.getAll nodes (storageType == StorageType.Drbd.name) with
    | [b] => .ok b
    | [] => .error (.UnknownStorageBackendException "There are no available storage backends")
    | _ :: _ :: _ => .error (.UnknownStorageBackendException "Storage backend must be specified")

/-- Lines 92-130 of `ensure_hdd_valid`: what each node checks, giving the storage type and the
backend it settled on. -/
def checkHdd (host : String) (n : Node) (size : Int) (storageType : Option String)
    (nodes : List String) (storageBackend : Option StorageBackend) :
    Except Error (String × StorageBackend) := do
  let storageType ← resolveStorageType host n storageType
  let storageBackend ← resolveStorageBackend host n storageType nodes storageBackend
  let free := storageBackend.freeSpace
  raiseIf (free < size) (.InsufficientSpaceException ("Attempted to create a disk with " ++
    toString size ++ " MiB, but there is only " ++ toString free ++
    " MiB of free space available on node " ++ host ++ "."))
  pure (storageType, storageBackend)

/-- `remote_command` of `ensure_hdd_valid`: the node looks its own backend of the same name up,
and runs its `ensure_hdd_valid`, where it is not the cluster master (`ensureHddValid_of_not_master`). -/
def remoteCommand (ctx : Context) (size : Int) (storageType : String) (nodes : List String)
    (storageBackend : StorageBackend) (node : String) : Except Error Unit := do
  let remoteStorageBackend ← (ctx.node node).storageFactory.getObject storageBackend.name
  discard <| checkHdd node (ctx.node node) size (some storageType) nodes (some remoteStorageBackend)

def ensureHddValid (ctx : Context) (size : Int) (storageType : Option String)
    (nodes : List String) (storageBackend : Option StorageBackend) : Except Error String := do
  let (storageType, storageBackend) ←
    checkHdd ctx.hostname (ctx.node ctx.hostname) size storageType nodes storageBackend
  if ctx.isClusterMaster then
    let remoteNodes := nodes.filter (· != ctx.hostname)
    runRemoteCommand remoteNodes (remoteCommand ctx size storageType nodes storageBackend)
  pure storageType

/-- Lines 152-168 of `create`: everything before the hard drive object is built. -/
def createChecks (ctx : Context) (vm : VirtualMachine) (size : Int)
    (storageType : Option String) (storageBackend : Option StorageBackend) :
    Except Error String := do
  assertPermission ctx.auth .MODIFY_VM vm
  let nodes := vm.availableNodes
  let storageType ← ensureHddValid ctx size storageType nodes storageBackend
  raiseIf (truthy vm.storageType && (storageType != "" && some storageType != vm.storageType))
    (.UnknownStorageTypeException "Storage type does not match VMs current storage type")
  pure storageType

/-- Lines 172-174 of `create`: register the new object, create its storage and return it. -/
def provision (ctx : Context) (size : Int) (hddObject : HardDrive) :
    EStateM Error Daemon HardDrive := do
  modify (registerObject ctx.pyroInitialised hddObject)
  liftExcept (ctx.createStorage hddObject size)
  pure hddObject

/-- Lines 170-174 of `create`: build the object of the class `storageType`, with the
`storage_backend` argument of `create`, and provision it. -/
def createBuild (ctx : Context) (vm : VirtualMachine) (size : Int) (driver : Option String)
    (storageBackend : Option StorageBackend) (storageType : String) :
    EStateM Error Daemon HardDrive := do
  let cls ← liftExcept (getClass (some storageType))
  let hddObject ← construct ctx cls { vm, driver, storageBackend }
  provision ctx size hddObject

def create (ctx : Context) (vm : VirtualMachine) (size : Int) (storageType : Option String)
    (driver : Option String) (storageBackend : Option StorageBackend) :
    EStateM Error Daemon HardDrive := do
  let storageType ← liftExcept (createChecks ctx vm size storageType storageBackend)
  createBuild ctx vm size driver storageBackend storageType

theorem getClass_eq_ok {st : Option String} {c : StorageType} :
    getClass st = .ok c ↔ st = some c.name := by
  rcases st with _ | t
  · cases c <;> simp [getClass, STORAGE_TYPES]
  · cases c <;> by_cases h1 : t = "Local" <;> by_cases h2 : t = "Drbd" <;>
      simp_all [getClass, STORAGE_TYPES, StorageType.name]

theorem onlyStorageType_eq_ok {n : Node} {R : String} :
    onlyStorageType n = .ok R ↔ (getAvailableStorageTypes n).map StorageType.name = [R] := by
  unfold onlyStorageType
  split <;> simp_all

theorem resolveStorageType_eq_ok {host : String} {n : Node} {t : Option String} {R : String} :
    resolveStorageType host n t = .ok R ↔
      if truthy t then t = some R ∧ R ∈ (getAvailableStorageTypes n).map StorageType.name
      else (getAvailableStorageTypes n).map StorageType.name = [R] := by
  unfold resolveStorageType
  split
  · rcases t with _ | t
    · simp_all
    · by_cases h : t ∈ (getAvailableStorageTypes n).map StorageType.name
      · simp only [pyStr, h, if_true, Except.ok.injEq, Option.some.injEq]
        exact ⟨fun e => ⟨e, e ▸ h⟩, And.left⟩
      · simp only [pyStr, h, if_false]
        exact ⟨nofun, fun ⟨e, hR⟩ => (h (Option.some.inj e ▸ hR)).elim⟩
  · exact onlyStorageType_eq_ok

theorem checkHdd_eq_ok {host : String} {n : Node} {size : Int} {t : Option String}
    {nodes : List String} {b : Option StorageBackend} {R : String} {B : StorageBackend} :
    checkHdd host n size t nodes b = .ok (R, B) ↔
      resolveStorageType host n t = .ok R ∧ resolveStorageBackend host n R nodes b = .ok B ∧
        size ≤ B.freeSpace := by
  simp only [checkHdd, Except.bind_eq_ok, raiseIf_eq_ok, decide_eq_false_iff_not, not_lt,
    Except.pure_eq_ok, Prod.mk.injEq]
  constructor
  · rintro ⟨R', hR, B', hB, u, hs, rfl, rfl⟩
    exact ⟨hR, hB, hs⟩
  · rintro ⟨hR, hB, hs⟩
    exact ⟨R, hR, B, hB, (), hs, rfl, rfl⟩

theorem remoteCommand_eq_ok {ctx : Context} {size : Int} {R : String} {nodes : List String}
    {B : StorageBackend} {node : String} {u : Unit} :
    remoteCommand ctx size R nodes B node = .ok u ↔
      ∃ B', (ctx.node node).storageFactory.getObject B.name = .ok B' ∧
        ∃ p, checkHdd node (ctx.node node) size (some R) nodes (some B') = .ok p := by
  simp only [remoteCommand, Except.bind_eq_ok, Except.discard_eq_ok]

theorem ensureHddValid_eq_ok {ctx : Context} {size : Int} {t : Option String}
    {nodes : List String} {b : Option StorageBackend} {R : String}
    (hm : ctx.isClusterMaster = true) :
    ensureHddValid ctx size t nodes b = .ok R ↔
      ∃ B, checkHdd ctx.hostname (ctx.node ctx.hostname) size t nodes b = .ok (R, B) ∧
        ∀ n ∈ nodes, n ≠ ctx.hostname → remoteCommand ctx size R nodes B n = .ok () := by
  simp only [ensureHddValid, hm, if_true, Except.bind_eq_ok, Prod.exists, runRemoteCommand_eq_ok,
    List.mem_filter, bne_iff_ne, ne_eq, and_imp, Except.pure_eq_ok]
  constructor
  · rintro ⟨R', B, h, u, hr, rfl⟩
    exact ⟨B, h, hr⟩
  · rintro ⟨B, h, hr⟩
    exact ⟨R, B, h, (), hr, rfl⟩

theorem ensureHddValid_of_not_master {ctx : Context} {size : Int} {t : Option String}
    {nodes : List String} {b : Option StorageBackend} (hm : ctx.isClusterMaster = false) :
    ensureHddValid ctx size t nodes b =
      (checkHdd ctx.hostname (ctx.node ctx.hostname) size t nodes b).map Prod.fst := by
  simp only [ensureHddValid, hm]
  cases checkHdd ctx.hostname (ctx.node ctx.hostname) size t nodes b <;> rfl

theorem createChecks_eq_ok {ctx : Context} {vm : VirtualMachine} {size : Int}
    {t : Option String} {b : Option StorageBackend} {R : String} :
    createChecks ctx vm size t b = .ok R ↔
      ctx.auth .MODIFY_VM vm = true ∧ ensureHddValid ctx size t vm.availableNodes b = .ok R ∧
        (truthy vm.storageType = true → R ≠ "" → vm.storageType = some R) := by
  simp only [createChecks, Except.bind_eq_ok, assertPermission_eq_ok, raiseIf_eq_ok,
    Except.pure_eq_ok]
  constructor
  · rintro ⟨u, hu, R', hR, v, hs, rfl⟩
    exact ⟨hu, hR, fun ht hne => by simp_all⟩
  · rintro ⟨hu, hR, hs⟩
    refine ⟨(), hu, R, hR, (), ?_, rfl⟩
    by_cases ht : truthy vm.storageType <;> by_cases hne : R = "" <;> simp_all

theorem create_run {ctx : Context} {vm : VirtualMachine} {size : Int} {t : Option String}
    {driver : Option String} {b : Option StorageBackend} (d : Daemon) :
    (create ctx vm size t driver b).run d =
      match createChecks ctx vm size t b with
      | .ok R => (createBuild ctx vm size driver b R).run d
      | .error e => .error e d := by
  simp only [create, EStateM.run_bind]
  cases createChecks ctx vm size t b <;> rfl

theorem createBuild_run {ctx : Context} {vm : VirtualMachine} {size : Int}
    {driver : Option String} {b : Option StorageBackend} {R : String} (d : Daemon) :
    (createBuild ctx vm size driver b R).run d =
      match getClass (some R) with
      | .error e => .error e d
      | .ok cls =>
        match ctx.init cls { vm, driver, storageBackend := b } with
        | .error e => .error e d
        | .ok () =>
          let o : HardDrive := ⟨d.nextId, cls, { vm, driver, storageBackend := b }⟩
          let d' := registerObject ctx.pyroInitialised o { d with nextId := d.nextId + 1 }
          match ctx.createStorage o size with
          | .error e => .error e d'
          | .ok () => .ok o d' := by
  simp only [createBuild, provision, EStateM.run_bind]
  cases getClass (some R) with
  | error e => rfl
  | ok cls =>
    simp only [EStateM.run_liftExcept_ok, construct_run]
    cases ctx.init cls { vm, driver, storageBackend := b } with
    | error e => rfl
    | ok u =>
      simp only [EStateM.run_modify]
      cases ctx.createStorage _ size <;> rfl

theorem getObject_run {ctx : Context} {vm : VirtualMachine} {diskId : Option Nat}
    {config : Kwargs} (d : Daemon) :
    (getObject ctx vm diskId config).run d =
      let key := cacheKey vm diskId config
      let d₁ := evictIf (cacheDisabled vm config) key d
      match d₁.cachedObjects key with
      | some o => .ok o d₁
      | none => (buildObject ctx vm diskId (lookupStorageType vm config).1
          (lookupStorageType vm config).2 key (cacheDisabled vm config)).run d₁ := by
  simp only [getObject, cacheKey, cacheDisabled, EStateM.run_bind, EStateM.run_modify,
    EStateM.run_get]
  split <;> rename_i h <;> simp only [h, EStateM.run_pure]

theorem buildObject_run {ctx : Context} {vm : VirtualMachine} {diskId : Option Nat}
    {st : Option String} {config : Kwargs} {key : CacheKey} {dc : Bool} (d : Daemon) :
    (buildObject ctx vm diskId st config key dc).run d =
      match getClass st with
      | .error e => .error e d
      | .ok cls =>
        match ctx.init cls { vm, diskId, config := config.items } with
        | .error e => .error e d
        | .ok () =>
          let o : HardDrive := ⟨d.nextId, cls, { vm, diskId, config := config.items }⟩
          let d' := registerObject ctx.pyroInitialised o { d with nextId := d.nextId + 1 }
          .ok o (if dc then d' else store key o d') := by
  simp only [buildObject, EStateM.run_bind]
  cases getClass st with
  | error e => rfl
  | ok cls =>
    simp only [EStateM.run_liftExcept_ok, construct_run]
    cases ctx.init cls { vm, diskId, config := config.items } <;> rfl

theorem getObject_cases (ctx : Context) (vm : VirtualMachine) (diskId : Option Nat)
    (config : Kwargs) (d : Daemon) :
    let k := cacheKey vm diskId config
    let d₁ := evictIf (cacheDisabled vm config) k d
    (∃ o, d₁.cachedObjects k = some o ∧ (getObject ctx vm diskId config).run d = .ok o d₁) ∨
      (d₁.cachedObjects k = none ∧ ∃ e, (getObject ctx vm diskId config).run d = .error e d₁) ∨
      (d₁.cachedObjects k = none ∧ ∃ cls, getClass (lookupStorageType vm config).1 = .ok cls ∧
        let o : HardDrive := ⟨d.nextId, cls,
          { vm, diskId, config := (lookupStorageType vm config).2.items }⟩
        let d' := registerObject ctx.pyroInitialised o { d₁ with nextId := d.nextId + 1 }
        (getObject ctx vm diskId config).run d =
          .ok o (if cacheDisabled vm config then d' else store k o d')) := by
  dsimp only
  rw [getObject_run]
  dsimp only
  split
  · exact .inl ⟨_, ‹_›, rfl⟩
  · rw [buildObject_run]
    cases hc : getClass (lookupStorageType vm config).1 with
    | error e => exact .inr (.inl ⟨‹_›, e, rfl⟩)
    | ok cls =>
      dsimp only
      cases hi : ctx.init cls { vm, diskId, config := (lookupStorageType vm config).2.items } with
      | error e => exact .inr (.inl ⟨‹_›, e, rfl⟩)
      | ok u =>
        cases u
        refine .inr (.inr ⟨‹_›, cls, rfl, ?_⟩)
        simp only [evictIf_nextId]

end Factory

end MCVirt
