import MCVirt.Storage.Backend

namespace MCVirt

/-- The hard drive classes of `Factory.STORAGE_TYPES`. -/
inductive StorageType where
  | Local
  | Drbd
  deriving DecidableEq, Repr

/-- `__name__` of a hard drive class. -/
def StorageType.name : StorageType → String
  | .Local => "Local"
  | .Drbd => "Drbd"

theorem StorageType.name_ne_empty (c : StorageType) : c.name ≠ "" := by
  cases c <;> decide

/-- Modelled from the spec: a virtual machine as the hard drive code reads it (the VM class is
not in the source): its name, the `storage_type` of its config, which `getStorageType` also
returns, `getAvailableNodes`, `is_stopped`, `getCloneParent` and `getCloneChildren`. -/
structure VirtualMachine where
  name : String
  storageType : Option String
  availableNodes : List String
  isStopped : Bool
  cloneParent : Option String
  cloneChildren : List String
  deriving DecidableEq, Repr

/-- The `PERMISSIONS` the modelled code asks for. -/
inductive Permission where
  | MODIFY_VM
  deriving DecidableEq, Repr

/-- Which permissions the caller holds on which VM. -/
abbrev Auth := Permission → VirtualMachine → Bool

/-- Modelled from the spec: `auth.assert_permission(permission, vm)` fails when the caller
lacks the permission. -/
def assertPermission (auth : Auth) (p : Permission) (vm : VirtualMachine) : Except Error Unit :=
  if auth p vm then .ok () else .error (.InsufficientPermissions (reprStr p) vm.name)

theorem assertPermission_eq_ok {auth : Auth} {p : Permission} {vm : VirtualMachine} {u : Unit} :
    assertPermission auth p vm = .ok u ↔ auth p vm = true := by
  unfold assertPermission
  split <;> simp_all

/-- The keyword arguments a hard drive class is called with. -/
structure HddArgs where
  vm : VirtualMachine
  diskId : Option Nat := none
  driver : Option String := none
  storageBackend : Option StorageBackend := none
  config : List (String × Option String) := []
  deriving DecidableEq, Repr

/-- A hard drive object: `id` is its identity in the process, `storageType` its class. -/
structure HardDrive where
  id : Nat
  storageType : StorageType
  args : HddArgs
  deriving DecidableEq, Repr

/-- A key of `Factory.CACHED_OBJECTS`: VM name, disk id, storage type or `''`. -/
abbrev CacheKey := String × Option Nat × String

/-- The state of the daemon process that the hard drive code changes: `Factory.CACHED_OBJECTS`,
the objects registered with the Pyro daemon, and the identity the next object gets. -/
structure Daemon where
  cachedObjects : CacheKey → Option HardDrive
  registered : List HardDrive
  nextId : Nat

def Daemon.initial : Daemon := ⟨fun _ => none, [], 0⟩

/-- What the hard drive code of one daemon reads and does not change: its node and the
others, whether it acts as cluster master and is attached to the Pyro daemon, the caller's
permissions, and the outcome of what it calls outside the source: the hard drive classes'
`__init__` and `create(size)`, `Base._ensure_exists`, the volume `clone` and
`addToVirtualMachine`. -/
structure Context where
  hostname : String
  isClusterMaster : Bool
  pyroInitialised : Bool
  node : String → Node
  auth : Auth
  init : StorageType → HddArgs → Except Error Unit
  createStorage : HardDrive → Int → Except Error Unit
  ensureExists : HardDrive → Except Error Unit
  cloneVolume : HardDrive → HardDrive → Except Error Unit
  addToVirtualMachine : HardDrive → Except Error Unit

/-- The daemon of the node `n` of the cluster of `ctx`, which is not the cluster master. -/
def Context.remote (ctx : Context) (n : String) : Context :=
  { ctx with hostname := n, isClusterMaster := false }

/-- `PyroObject._register_object`: the object is registered when the caller is attached to
the Pyro daemon. -/
def registerObject (pyroInitialised : Bool) (o : HardDrive) (d : Daemon) : Daemon :=
  if pyroInitialised then { d with registered := o :: d.registered } else d

@[simp] theorem registerObject_cachedObjects (b : Bool) (o : HardDrive) (d : Daemon) :
    (registerObject b o d).cachedObjects = d.cachedObjects := by
  unfold registerObject; split <;> rfl

@[simp] theorem registerObject_nextId (b : Bool) (o : HardDrive) (d : Daemon) :
    (registerObject b o d).nextId = d.nextId := by
  unfold registerObject; split <;> rfl

theorem registerObject_registered (b : Bool) (o : HardDrive) (d : Daemon) :
    (registerObject b o d).registered = if b then o :: d.registered else d.registered := by
  unfold registerObject; split <;> rfl

/-- Calling the hard drive class `cls` with `args`: its `__init__` may raise, and otherwise
the new object takes the next identity. -/
def construct (ctx : Context) (cls : StorageType) (args : HddArgs) :
    EStateM Error Daemon HardDrive := fun d =>
  match ctx.init cls args with
  | .error e => .error e d
  | .ok () => .ok ⟨d.nextId, cls, args⟩ { d with nextId := d.nextId + 1 }

theorem construct_run (ctx : Context) (cls : StorageType) (args : HddArgs) (d : Daemon) :
    (construct ctx cls args).run d = match ctx.init cls args with
      | .error e => .error e d
      | .ok () => .ok ⟨d.nextId, cls, args⟩ { d with nextId := d.nextId + 1 } := rfl

def vg0 (available : Bool) : StorageBackend := ⟨"vg0", available, 100⟩

def localOnlyNode (b : StorageBackend) : Node := ⟨⟨[b], fun _ _ => [b], [b]⟩, false⟩

def masterOn (node : String → Node) : Context :=
  { hostname := "node1", isClusterMaster := true, pyroInitialised := true, node,
    auth := fun _ _ => true, init := fun _ _ => .ok (), createStorage := fun _ _ => .ok (),
    ensureExists := fun _ => .ok (), cloneVolume := fun _ _ => .ok (),
    addToVirtualMachine := fun _ => .ok () }

def localVm (nodes : List String) : VirtualMachine := ⟨"vm1", some "Local", nodes, true, none, []⟩

end MCVirt
