import MCVirt.HardDrive.Base
import MCVirt.Storage.Lvm

namespace MCVirt

def Local.isAvailable (storageFactory : StorageFactory) : Bool :=
  !storageFactory.availableOnLocalNode.isEmpty

/-- What the methods of `Local` read of their object: its VM, the volume `_get_data_volume`
returns (`disk_name` in the volume group of the backend), and whether the backend is `shared`.
`Base`, which is not in the source, resolves the three. -/
structure LocalDisk where
  vm : VirtualMachine
  dataVolume : LvmVolume
  shared : Bool

/-- A size given to `increase_size`: an `int`, or a string for `SizeConverter`. -/
inductive SizeArg where
  | int (n : Int)
  | str (s : String)

/-- Lines 58-60 of `increase_size`; `toBytes` is
`SizeConverter.from_string(…, storage=True).to_bytes()`, which is not in the source. -/
def SizeArg.convert (toBytes : String → Except Error Int) : SizeArg → Except Error Int
  | .int n => .ok n
  | .str s => toBytes s

namespace Local

variable {σ : Type} (host : Host σ) (disk : LocalDisk)

def checkExists : EStateM Error σ Bool := disk.dataVolume.checkExists host

/-- Modelled from the spec: `Base._ensure_exists` raises `HardDriveDoesNotExistException`
unless `_check_exists()` holds. The message is not in the source; the model gives the path. -/
def ensureExists : EStateM Error σ Unit := do
  let exists_ ← checkExists host disk
  raiseIf (!exists_) (.HardDriveDoesNotExistException disk.dataVolume.getPath)

/-- `increase_size`. Its last line passes `resize` a keyword that `resize` has no parameter
for. -/
def increaseSize (auth : Auth) (toBytes : String → Except Error Int) (increaseSize : SizeArg) :
    EStateM Error σ Unit := do
  liftExcept (assertPermission auth .MODIFY_VM disk.vm)
  let increaseSize ← liftExcept (increaseSize.convert toBytes)
  ensureExists host disk
  raiseIf (!disk.vm.isStopped)
    (.VmAlreadyStartedException "VM must be stopped before increasing disk size")
  raiseIf (truthy disk.vm.cloneParent || !disk.vm.cloneChildren.isEmpty)
    (.VmIsCloneException "Cannot increase the disk of a cloned VM or a clone.")
  let volume := disk.dataVolume
  liftExcept (bindKeywords "resize" LvmVolume.resizeParams ["increase"])
  volume.resize host increaseSize

theorem ensureExists_readsOnly : ReadsOnly (ensureExists host disk) :=
  ReadsOnly.bind (fun _ => .inl ⟨_, rfl⟩) fun _ => .raiseIf _ _

theorem bindKeywords_resize_increase :
    bindKeywords "resize" LvmVolume.resizeParams ["increase"] =
      .error (.TypeError "resize() got an unexpected keyword argument \x27increase\x27") := rfl

/-- `increase_size` never returns normally and never changes the node: every path ends, before
any command runs, in a failed check or in the call of `resize` with a keyword `resize` has no
parameter for. -/
theorem increaseSize_raises (auth : Auth) (toBytes : String → Except Error Int) (x : SizeArg) :
    Raises (increaseSize host disk auth toBytes x) := by
  refine Raises.bind (.liftExcept _) fun _ => Raises.bind (.liftExcept _) fun _ =>
    Raises.bind (ensureExists_readsOnly host disk) fun _ => Raises.bind (.raiseIf _ _) fun _ =>
    Raises.bind (.raiseIf _ _) fun _ => Raises.bind_left ?_
  rw [bindKeywords_resize_increase]
  exact Raises.liftExcept_error _

theorem increaseSize_typeError {auth : Auth} {toBytes : String → Except Error Int}
    {x : SizeArg} {s : σ} {n : Int} (hperm : auth .MODIFY_VM disk.vm = true)
    (hsize : x.convert toBytes = .ok n) (hexists : host.lexists disk.dataVolume.getPath s = true)
    (hstopped : disk.vm.isStopped = true) (hparent : truthy disk.vm.cloneParent = false)
    (hchildren : disk.vm.cloneChildren = []) :
    (increaseSize host disk auth toBytes x).run s =
      .error (.TypeError "resize() got an unexpected keyword argument \x27increase\x27") s := by
  simp [increaseSize, assertPermission, hperm, hsize, ensureExists, checkExists, hexists,
    hstopped, hparent, hchildren, bindKeywords_resize_increase]

def removeStorage : EStateM Error σ Unit := disk.dataVolume.delete host false

def getSize : EStateM Error σ Int := disk.dataVolume.getSize host

def stoppedDisk : LocalDisk :=
  ⟨localVm ["node1"], ⟨"vm1_disk_1", "vg0"⟩, false⟩

/-- Increasing the disk that `lvs` reports at 10 MB by 5 MB raises, and the disk still reports
10 MB. -/
theorem increaseSize_leaves_ten :
    (increaseSize LvmVolume.lvsReportHost stoppedDisk (fun _ _ => true) (fun _ => .ok 0)
        (.int 5)).run () =
        .error (.TypeError "resize() got an unexpected keyword argument \x27increase\x27") () ∧
      (getSize LvmVolume.lvsReportHost stoppedDisk).run () = .ok 10 () :=
  ⟨@increaseSize_typeError Unit LvmVolume.lvsReportHost stoppedDisk (fun _ _ => true)
    (fun _ => .ok 0) (.int 5) () 5 rfl rfl rfl rfl rfl rfl, rfl⟩

def create (size : Int) : EStateM Error σ Unit := disk.dataVolume.create host size

def activateDisk : EStateM Error σ Unit := do
  ensureExists host disk
  disk.dataVolume.activate host

def deactivateDisk : EStateM Error σ Unit := LvmVolume.deactivate

def preMigrationChecks : Except Error Unit :=
  if !disk.shared then
    .error (.CannotMigrateLocalDiskException
      "VMs using local disks on a non-shared backend cannot be migrated")
  else .ok ()

/-- The arguments `clone` builds the new disk with. `Base` may read `disk_id`, `driver` and
`storage_backend` from the disk config; the model passes on the constructor arguments. -/
def cloneArgs (source : HardDrive) (destination : VirtualMachine) : HddArgs :=
  { vm := destination, driver := source.args.driver, diskId := source.args.diskId,
    storageBackend := source.args.storageBackend }

/-- `clone`, called on the disk `source`. -/
def clone (ctx : Context) (source : HardDrive) (destination : VirtualMachine) :
    EStateM Error Daemon HardDrive := do
  liftExcept (ctx.ensureExists source)
  let newDisk ← construct ctx .Local (cloneArgs source destination)
  let sourceInitialised := (← get).registered.contains source
  modify (registerObject sourceInitialised newDisk)
  liftExcept (ctx.cloneVolume source newDisk)
  liftExcept (ctx.addToVirtualMachine newDisk)
  return newDisk

theorem clone_run (ctx : Context) (source : HardDrive) (destination : VirtualMachine)
    (d : Daemon) :
    (clone ctx source destination).run d =
      match ctx.ensureExists source with
      | .error e => .error e d
      | .ok () =>
        match ctx.init .Local (cloneArgs source destination) with
        | .error e => .error e d
        | .ok () =>
          let o : HardDrive := ⟨d.nextId, .Local, cloneArgs source destination⟩
          let d' := registerObject (d.registered.contains source) o
            { d with nextId := d.nextId + 1 }
          match ctx.cloneVolume source o with
          | .error e => .error e d'
          | .ok () =>
            match ctx.addToVirtualMachine o with
            | .error e => .error e d'
            | .ok () => .ok o d' := by
  simp only [clone, EStateM.run_bind]
  cases ctx.ensureExists source with
  | error e => rfl
  | ok u =>
    simp only [EStateM.run_liftExcept_ok, construct_run]
    cases ctx.init .Local (cloneArgs source destination) with
    | error e => rfl
    | ok u =>
      simp only [EStateM.run_get, EStateM.run_modify]
      cases ctx.cloneVolume source _ with
      | error e => rfl
      | ok u => cases ctx.addToVirtualMachine _ <;> rfl

end Local

end MCVirt
