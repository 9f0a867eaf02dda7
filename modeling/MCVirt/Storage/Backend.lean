import MCVirt.Python

namespace MCVirt

/-- A storage backend as the hard drive code sees it on one node: its name, whether
`ensure_available_on_node` passes there, and what `get_free_space` reports there, in MB. -/
structure StorageBackend where
  name : String
  availableOnNode : Bool
  freeSpace : Int
  deriving DecidableEq, Repr

/-- Modelled from the spec: `ensure_available_on_node` (`storage/base.py` is not in the source)
raises `StorageBackendNotAvailableOnNode` when the backend is not available on the node. -/
def StorageBackend.ensureAvailableOnNode (b : StorageBackend) (node : String) :
    Except Error Unit :=
  if b.availableOnNode then .ok () else .error (.StorageBackendNotAvailableOnNode b.name node)

/-- The storage factory of one node (`storage/factory.py` is not in the source): the backends
it holds, and what its `get_all` returns for the two queries the hard drive code makes,
`get_all(nodes=…, drbd=…)` and `get_all(available_on_local_node=True)`. -/
structure StorageFactory where
  backends : List StorageBackend
  getAll : List String → Bool → List StorageBackend
  availableOnLocalNode : List StorageBackend

/-- Modelled from the spec: `get_object(name)` looks a backend up by name. -/
def StorageFactory.getObject (f : StorageFactory) (name : String) : Except Error StorageBackend :=
  match f.backends.find? (·.name == name) with
  | some b => .ok b
  | none => .error (.StorageBackendDoesNotExist name)

/-- What one node holds that the hard drive factory asks about: its storage factory, and
whether `Drbd.isAvailable` holds there (`drbd.py` is not in the source). -/
structure Node where
  storageFactory : StorageFactory
  drbdAvailable : Bool

/-- Modelled from the spec: `cluster.run_remote_command(callback_method, nodes)` (the cluster
is not in the source) runs the callback against each node in turn, and the first failure
propagates. -/
def runRemoteCommand (nodes : List String) (callback : String → Except Error Unit) :
    Except Error Unit :=
  nodes.forM callback

theorem runRemoteCommand_cons (n : String) (nodes : List String)
    (callback : String → Except Error Unit) :
    runRemoteCommand (n :: nodes) callback = (callback n >>= fun _ => runRemoteCommand nodes callback) :=
  rfl

theorem runRemoteCommand_eq_ok {nodes : List String} {callback : String → Except Error Unit}
    {u : Unit} : runRemoteCommand nodes callback = .ok u ↔ ∀ n ∈ nodes, callback n = .ok () := by
  induction nodes with
  | nil => simp [runRemoteCommand, pure, Except.pure]
  | cons n nodes ih =>
    simp only [runRemoteCommand, List.forM_cons, List.mem_cons, forall_eq_or_imp] at ih ⊢
    cases h : callback n <;> simp [bind, Except.bind, h, ih]

end MCVirt
