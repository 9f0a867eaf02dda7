import MCVirt.HardDrive.Factory

namespace MCVirt

def outcome {σ α : Type} : EStateM.Result Error σ α → Except Error α
  | .ok a _ => .ok a
  | .error e _ => .error e

def after {σ α : Type} : EStateM.Result Error σ α → σ
  | .ok _ s => s
  | .error _ s => s

@[simp] theorem outcome_ok {σ α : Type} (a : α) (s : σ) :
    outcome (.ok a s : EStateM.Result Error σ α) = .ok a := rfl

@[simp] theorem outcome_error {σ α : Type} (e : Error) (s : σ) :
    outcome (.error e s : EStateM.Result Error σ α) = .error e := rfl

@[simp] theorem after_ok {σ α : Type} (a : α) (s : σ) :
    after (.ok a s : EStateM.Result Error σ α) = s := rfl

@[simp] theorem after_error {σ α : Type} (e : Error) (s : σ) :
    after (.error e s : EStateM.Result Error σ α) = s := rfl

/-- A call the daemon serves that builds or looks up hard drive objects. -/
inductive Call where
  | getObject (vm : VirtualMachine) (diskId : Option Nat) (config : Kwargs)
  | create (vm : VirtualMachine) (size : Int) (storageType driver : Option String)
      (storageBackend : Option StorageBackend)
  | clone (source : HardDrive) (destination : VirtualMachine)

namespace Call

/-- How the daemon serves a call. -/
def run (ctx : Context) : Call → EStateM Error Daemon HardDrive
  | .getObject vm diskId config => Factory.getObject ctx vm diskId config
  | .create vm size storageType driver storageBackend =>
    Factory.create ctx vm size storageType driver storageBackend
  | .clone source destination => Local.clone ctx source destination

/-- The cache key a `getObject` call looks up, and whether the call disables the cache. -/
def lookup : Call → Option (CacheKey × Bool)
  | .getObject vm diskId config =>
    some (Factory.cacheKey vm diskId config, Factory.cacheDisabled vm config)
  | _ => none

end Call

/-- A served call and what it returned or raised. -/
structure Event where
  call : Call
  result : Except Error HardDrive

/-- The daemon states reached from the start of the process, with the calls served so far,
the last one first. Each call is served in its own context: the nodes' storage, the caller's
permissions and what the collaborators do may change from one call to the next. Whether the
factory is attached to the Pyro daemon, `pyro`, is fixed for the process. -/
inductive Reachable (pyro : Bool) : Daemon → List Event → Prop
  | init : Reachable pyro Daemon.initial []
  | step {d : Daemon} {h : List Event} (ctx : Context) (c : Call)
      (hpyro : ctx.pyroInitialised = pyro) : Reachable pyro d h →
      Reachable pyro (after ((c.run ctx).run d)) (⟨c, outcome ((c.run ctx).run d)⟩ :: h)

/-- Serving the calls `cs` in order, from the daemon `s.1` with the history `s.2`. -/
def serve (ctx : Context) : List Call → Daemon × List Event → Daemon × List Event
  | [], s => s
  | c :: cs, (d, h) =>
    serve ctx cs (after ((c.run ctx).run d), ⟨c, outcome ((c.run ctx).run d)⟩ :: h)

theorem Reachable.serve {ctx : Context} {d : Daemon} {h : List Event}
    (hr : Reachable ctx.pyroInitialised d h) (cs : List Call) :
    Reachable ctx.pyroInitialised (MCVirt.serve ctx cs (d, h)).1 (MCVirt.serve ctx cs (d, h)).2 := by
  induction cs generalizing d h with
  | nil => exact hr
  | cons c cs ih => exact ih (hr.step ctx c rfl)

/-- The object the cache key `k` is bound to after the calls `h`, the last one first: the one
built by the first successful cache-enabled lookup of `k` since the last cache-disabled
lookup of `k`, successful or not. -/
def boundObject : List Event → CacheKey → Option HardDrive
  | [], _ => none
  | e :: h, k =>
    match e.call.lookup with
    | some (k', disabled) =>
      if k' = k then
        if disabled then none
        else match boundObject h k with
          | some o => some o
          | none => e.result.toOption
      else boundObject h k
    | none => boundObject h k

theorem boundObject_mem {h : List Event} {k : CacheKey} {o : HardDrive}
    (hb : boundObject h k = some o) :
    ∃ e ∈ h, e.call.lookup = some (k, false) ∧ e.result = .ok o := by
  induction h with
  | nil => cases hb
  | cons e h ih =>
    simp only [boundObject] at hb
    split at hb
    · rename_i k' dis hl
      by_cases hk : k' = k
      · subst hk
        cases dis
        · cases hprev : boundObject h k' with
          | some o' =>
            simp only [if_true, Bool.false_eq_true, if_false, hprev] at hb
            exact List.exists_mem_cons_of_exists (ih (hprev.trans hb))
          | none =>
            simp only [if_true, Bool.false_eq_true, if_false, hprev, Except.toOption_eq_some] at hb
            exact ⟨e, List.mem_cons_self _ _, hl, hb⟩
        · simp at hb
      · simp only [hk, if_false] at hb
        exact List.exists_mem_cons_of_exists (ih hb)
    · exact List.exists_mem_cons_of_exists (ih hb)

/-- `o` is an instance of the class the key's storage type names, built for the key's VM and
disk id. -/
def Keyed (k : CacheKey) (o : HardDrive) : Prop :=
  o.storageType.name = k.2.2 ∧ o.args.vm.name = k.1 ∧ o.args.diskId = k.2.1

section Lookup

open Factory

variable {ctx : Context} {vm : VirtualMachine} {diskId : Option Nat} {config : Kwargs}
  {d : Daemon}

theorem getObject_cachedObjects :
    (after ((getObject ctx vm diskId config).run d)).cachedObjects =
      Function.update d.cachedObjects (cacheKey vm diskId config)
        (if cacheDisabled vm config then none
        else match d.cachedObjects (cacheKey vm diskId config) with
          | some o => some o
          | none => (outcome ((getObject ctx vm diskId config).run d)).toOption) := by
  rcases getObject_cases ctx vm diskId config d with ⟨o, hc, hr⟩ | ⟨hc, e, hr⟩ | ⟨hc, cls, -, hr⟩ <;>
    rw [hr] <;> cases hd : cacheDisabled vm config <;>
    simp_all [evictIf_cachedObjects, Function.eq_update_iff, Except.toOption]

theorem getObject_found {o : HardDrive}
    (hc : (evictIf (cacheDisabled vm config) (cacheKey vm diskId config) d).cachedObjects
      (cacheKey vm diskId config) = some o) :
    (getObject ctx vm diskId config).run d =
      .ok o (evictIf (cacheDisabled vm config) (cacheKey vm diskId config) d) := by
  rw [getObject_run]
  dsimp only
  rw [hc]

theorem getObject_hit {o : HardDrive} (hdis : cacheDisabled vm config = false)
    (hc : d.cachedObjects (cacheKey vm diskId config) = some o) :
    (getObject ctx vm diskId config).run d = .ok o d := by
  rw [getObject_found (by rwa [hdis, evictIf_false]), hdis, evictIf_false]

theorem getObject_caches {o : HardDrive} (hdis : cacheDisabled vm config = false)
    (hr : outcome ((getObject ctx vm diskId config).run d) = .ok o) :
    (after ((getObject ctx vm diskId config).run d)).cachedObjects (cacheKey vm diskId config) =
      some o := by
  rw [getObject_cachedObjects, Function.update_same, hdis, if_neg (by simp)]
  cases hd : d.cachedObjects (cacheKey vm diskId config) with
  | none => exact Except.toOption_eq_some.2 hr
  | some o' =>
    rw [getObject_hit hdis hd, outcome_ok, Except.ok.injEq] at hr
    exact congrArg some hr

/-- A successful cache-enabled lookup, made again with the same arguments, returns the same
object and changes nothing. -/
theorem getObject_again {o : HardDrive} {d' : Daemon} (hdis : cacheDisabled vm config = false)
    (hr : (getObject ctx vm diskId config).run d = .ok o d') :
    (getObject ctx vm diskId config).run d' = .ok o d' := by
  have hc := getObject_caches hdis (by rw [hr]; rfl)
  rw [hr] at hc
  exact getObject_hit hdis hc

theorem getObject_again_vm1 :
    ∃ o d', (getObject (masterOn fun _ => localOnlyNode (vg0 true)) (localVm ["node1"]) none
        .empty).run Daemon.initial = .ok o d' ∧
      (getObject (masterOn fun _ => localOnlyNode (vg0 true)) (localVm ["node1"]) none
        .empty).run d' = .ok o d' :=
  ⟨_, _, rfl, @getObject_again _ _ _ _ Daemon.initial _ _ rfl rfl⟩

theorem getObject_built {o : HardDrive}
    (hc : (evictIf (cacheDisabled vm config) (cacheKey vm diskId config) d).cachedObjects
      (cacheKey vm diskId config) = none)
    (hr : outcome ((getObject ctx vm diskId config).run d) = .ok o) :
    o.id = d.nextId ∧ Keyed (cacheKey vm diskId config) o ∧
      (after ((getObject ctx vm diskId config).run d)).nextId = d.nextId + 1 ∧
      (after ((getObject ctx vm diskId config).run d)).registered =
        (registerObject ctx.pyroInitialised o d).registered := by
  rcases getObject_cases ctx vm diskId config d with ⟨o', hc', -⟩ | ⟨-, e, he⟩ | ⟨-, cls, hcls, hb⟩
  · simp_all
  · simp_all
  · dsimp only at hb
    rw [hb, outcome_ok, Except.ok.injEq] at hr
    subst hr
    rw [getClass_eq_ok] at hcls
    rw [hb]
    refine ⟨rfl, ⟨by simp [cacheKey, hcls], rfl, rfl⟩, ?_, ?_⟩ <;>
      cases cacheDisabled vm config <;> simp [registerObject_registered]

theorem getObject_raised {e : Error}
    (hr : outcome ((getObject ctx vm diskId config).run d) = .error e) :
    after ((getObject ctx vm diskId config).run d) =
      evictIf (cacheDisabled vm config) (cacheKey vm diskId config) d := by
  rcases getObject_cases ctx vm diskId config d with ⟨o, -, hb⟩ | ⟨-, e', he⟩ | ⟨-, cls, -, hb⟩ <;>
    simp_all

theorem getObject_returned {o : HardDrive}
    (hr : outcome ((getObject ctx vm diskId config).run d) = .ok o) :
    (d.cachedObjects (cacheKey vm diskId config) = some o ∧
        (after ((getObject ctx vm diskId config).run d)).nextId = d.nextId) ∨
      (o.id = d.nextId ∧ (after ((getObject ctx vm diskId config).run d)).nextId = d.nextId + 1) := by
  cases hc : (evictIf (cacheDisabled vm config) (cacheKey vm diskId config) d).cachedObjects
      (cacheKey vm diskId config) with
  | some o' =>
    rw [getObject_found hc, outcome_ok, Except.ok.injEq] at hr
    subst hr
    exact .inl ⟨cachedObjects_of_evictIf hc, by simp [getObject_found hc]⟩
  | none =>
    obtain ⟨hid, -, hn, -⟩ := getObject_built hc hr
    exact .inr ⟨hid, hn⟩

theorem getObject_cachedObjects_eq_some {k : CacheKey} {o : HardDrive}
    (hk : (after ((getObject ctx vm diskId config).run d)).cachedObjects k = some o) :
    d.cachedObjects k = some o ∨ (k = cacheKey vm diskId config ∧ Keyed k o) := by
  rw [getObject_cachedObjects, Function.update_apply] at hk
  split_ifs at hk with hkey hdis
  · subst hkey
    split at hk
    next o' hc => exact .inl (hc.trans hk)
    next hc =>
      refine .inr ⟨rfl, (getObject_built ?_ (Except.toOption_eq_some.1 hk)).2.1⟩
      simp [evictIf_cachedObjects_key, hdis, hc]
  · exact .inl hk

theorem getObject_nextId_le :
    d.nextId ≤ (after ((getObject ctx vm diskId config).run d)).nextId := by
  cases hr : outcome ((getObject ctx vm diskId config).run d) with
  | error e => simp [getObject_raised hr]
  | ok o => rcases getObject_returned hr with ⟨-, h⟩ | ⟨-, h⟩ <;> omega

theorem getObject_boundObject {h : List Event} (hb : ∀ k, d.cachedObjects k = boundObject h k)
    (k : CacheKey) :
    (after ((getObject ctx vm diskId config).run d)).cachedObjects k =
      boundObject (⟨.getObject vm diskId config,
        outcome ((getObject ctx vm diskId config).run d)⟩ :: h) k := by
  rw [getObject_cachedObjects, Function.update_apply]
  simp only [boundObject, Call.lookup, hb]
  by_cases hk : k = cacheKey vm diskId config
  · simp [hk]
  · simp [hk, Ne.symm hk]

end Lookup

/-- What `create` and `Local.clone` can do from `d`: raise with `d` unchanged, or build `o` with
the identity `d.nextId`, register it or not, and then raise or return `o`. -/
def BuildsFrom (d : Daemon) (r : EStateM.Result Error Daemon HardDrive) : Prop :=
  (∃ e, r = .error e d) ∨ ∃ o b, o.id = d.nextId ∧
    ((∃ e, r = .error e (registerObject b o { d with nextId := d.nextId + 1 })) ∨
      r = .ok o (registerObject b o { d with nextId := d.nextId + 1 }))

theorem create_buildsFrom (ctx : Context) (vm : VirtualMachine) (size : Int)
    (t driver : Option String) (b : Option StorageBackend) (d : Daemon) :
    BuildsFrom d ((Factory.create ctx vm size t driver b).run d) := by
  rw [Factory.create_run]
  split
  · rw [Factory.createBuild_run]
    split
    · exact .inl ⟨_, rfl⟩
    · rename_i cls _
      split
      · exact .inl ⟨_, rfl⟩
      · refine .inr ⟨⟨d.nextId, cls, { vm, driver, storageBackend := b }⟩, ctx.pyroInitialised,
          rfl, ?_⟩
        dsimp only
        split
        · exact .inl ⟨_, rfl⟩
        · exact .inr rfl
  · exact .inl ⟨_, rfl⟩

theorem clone_buildsFrom (ctx : Context) (source : HardDrive) (destination : VirtualMachine)
    (d : Daemon) : BuildsFrom d ((Local.clone ctx source destination).run d) := by
  rw [Local.clone_run]
  split
  · exact .inl ⟨_, rfl⟩
  · split
    · exact .inl ⟨_, rfl⟩
    · refine .inr ⟨⟨d.nextId, .Local, Local.cloneArgs source destination⟩,
        d.registered.contains source, rfl, ?_⟩
      dsimp only
      split
      · exact .inl ⟨_, rfl⟩
      · split
        · exact .inl ⟨_, rfl⟩
        · exact .inr rfl

theorem Call.buildsFrom (ctx : Context) {c : Call} (hc : c.lookup = none) (d : Daemon) :
    BuildsFrom d ((c.run ctx).run d) := by
  cases c with
  | getObject => cases hc
  | create vm size t driver b => exact create_buildsFrom ctx vm size t driver b d
  | clone source destination => exact clone_buildsFrom ctx source destination d

namespace BuildsFrom

variable {d : Daemon} {r : EStateM.Result Error Daemon HardDrive}

theorem cachedObjects (h : BuildsFrom d r) : (after r).cachedObjects = d.cachedObjects := by
  obtain ⟨e, rfl⟩ | ⟨o, b, -, ⟨e, rfl⟩ | rfl⟩ := h <;> simp

theorem nextId_le (h : BuildsFrom d r) : d.nextId ≤ (after r).nextId := by
  obtain ⟨e, rfl⟩ | ⟨o, b, -, ⟨e, rfl⟩ | rfl⟩ := h <;> simp

theorem fresh (h : BuildsFrom d r) {o : HardDrive} (ho : outcome r = .ok o) :
    o.id = d.nextId ∧ d.nextId < (after r).nextId := by
  obtain ⟨e, rfl⟩ | ⟨o', b, hid, ⟨e, rfl⟩ | rfl⟩ := h
  · cases ho
  · cases ho
  · rw [outcome_ok, Except.ok.injEq] at ho
    subst ho
    simp [hid]

end BuildsFrom

end MCVirt
