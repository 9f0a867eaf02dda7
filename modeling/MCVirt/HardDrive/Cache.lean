import MCVirt.HardDrive.Calls
import MCVirt.HardDrive.Validation

namespace MCVirt

def localMaster : Context := masterOn fun _ => localOnlyNode (vg0 true)

def createVm1 : Call := .create (localVm ["node1"]) 10 none none none

def lookupVm1 : Call := .getObject (localVm ["node1"]) none .empty

/-- What holds of the daemon after the calls `h`: the cache is `boundObject h`, every cached
object is keyed right, every object returned so far has an identity below the next one, and no
object returned by `create` or `Local.clone` shares its identity with one a lookup returned. -/
structure CacheInv (d : Daemon) (h : List Event) : Prop where
  bound : ∀ k, d.cachedObjects k = boundObject h k
  keyed : ∀ k o, d.cachedObjects k = some o → Keyed k o
  fresh : ∀ e ∈ h, ∀ o, e.result = .ok o → o.id < d.nextId
  separate : ∀ e₁ ∈ h, e₁.call.lookup = none → ∀ e₂ ∈ h, e₂.call.lookup ≠ none →
    ∀ o₁ o₂, e₁.result = .ok o₁ → e₂.result = .ok o₂ → o₁.id ≠ o₂.id

namespace CacheInv

open Factory

variable {ctx : Context} {d : Daemon} {h : List Event}

theorem initial : CacheInv Daemon.initial [] where
  bound _ := rfl
  keyed _ _ h := by cases h
  fresh _ he := by cases he
  separate _ he := by cases he

theorem cached_mem (hi : CacheInv d h) {k : CacheKey} {o : HardDrive}
    (hc : d.cachedObjects k = some o) :
    ∃ e ∈ h, e.call.lookup = some (k, false) ∧ e.result = .ok o :=
  boundObject_mem (hi.bound k ▸ hc)

theorem cached_lt (hi : CacheInv d h) {k : CacheKey} {o : HardDrive}
    (hc : d.cachedObjects k = some o) : o.id < d.nextId := by
  obtain ⟨e, he, -, hr⟩ := hi.cached_mem hc
  exact hi.fresh e he o hr

theorem step_build (hi : CacheInv d h) {c : Call} (hc : c.lookup = none) :
    CacheInv (after ((c.run ctx).run d)) (⟨c, outcome ((c.run ctx).run d)⟩ :: h) := by
  have hb := Call.buildsFrom ctx hc d
  refine ⟨fun k => ?_, fun k o => hb.cachedObjects ▸ hi.keyed k o, ?_, ?_⟩
  · rw [hb.cachedObjects, hi.bound]
    simp only [boundObject, hc]
  · intro e he o ho
    rcases List.mem_cons.1 he with rfl | he
    · obtain ⟨hid, hlt⟩ := hb.fresh ho
      omega
    · exact lt_of_lt_of_le (hi.fresh e he o ho) hb.nextId_le
  · intro e₁ he₁ hl₁ e₂ he₂ hl₂ o₁ o₂ h₁ h₂
    rcases List.mem_cons.1 he₁ with rfl | he₁ <;> rcases List.mem_cons.1 he₂ with rfl | he₂
    · exact absurd hc hl₂
    · have := hi.fresh e₂ he₂ o₂ h₂
      rw [(hb.fresh h₁).1]
      omega
    · exact absurd hc hl₂
    · exact hi.separate e₁ he₁ hl₁ e₂ he₂ hl₂ o₁ o₂ h₁ h₂

theorem step_getObject (hi : CacheInv d h) (vm : VirtualMachine) (diskId : Option Nat)
    (config : Kwargs) :
    CacheInv (after ((Factory.getObject ctx vm diskId config).run d))
      (⟨.getObject vm diskId config, outcome ((Factory.getObject ctx vm diskId config).run d)⟩ ::
        h) := by
  refine ⟨getObject_boundObject hi.bound, fun k o hk => ?_, ?_, ?_⟩
  · rcases getObject_cachedObjects_eq_some hk with hk | ⟨-, hk⟩
    exacts [hi.keyed k o hk, hk]
  · intro e he o ho
    rcases List.mem_cons.1 he with rfl | he
    · rcases getObject_returned ho with ⟨hc, hn⟩ | ⟨hid, hn⟩
      · exact hn ▸ hi.cached_lt hc
      · omega
    · exact lt_of_lt_of_le (hi.fresh e he o ho) getObject_nextId_le
  · intro e₁ he₁ hl₁ e₂ he₂ hl₂ o₁ o₂ h₁ h₂
    rcases List.mem_cons.1 he₁ with rfl | he₁
    · cases hl₁
    rcases List.mem_cons.1 he₂ with rfl | he₂
    · rcases getObject_returned h₂ with ⟨hc, -⟩ | ⟨hid, -⟩
      · obtain ⟨e, he, hl, hr⟩ := hi.cached_mem hc
        exact hi.separate e₁ he₁ hl₁ e he (by simp [hl]) o₁ o₂ h₁ hr
      · have := hi.fresh e₁ he₁ o₁ h₁
        omega
    · exact hi.separate e₁ he₁ hl₁ e₂ he₂ hl₂ o₁ o₂ h₁ h₂

end CacheInv

theorem Reachable.cacheInv {pyro : Bool} {d : Daemon} {h : List Event}
    (hr : Reachable pyro d h) : CacheInv d h := by
  induction hr with
  | init => exact CacheInv.initial
  | step ctx c _ _ ih =>
    cases c with
    | getObject vm diskId config => exact ih.step_getObject vm diskId config
    | create => exact ih.step_build rfl
    | clone => exact ih.step_build rfl

/-- An object `o₁` that `create` or `Local.clone` returned is never cached, and no lookup,
earlier or later, returns an object of its identity: a cache-enabled lookup served next returns
the object already cached under its key, or a new one with the next identity, and leaves it
cached there. -/
theorem built_apart_from_lookups {pyro : Bool} {d : Daemon} {h : List Event}
    (hr : Reachable pyro d h) {e₁ : Event} (he₁ : e₁ ∈ h) (hl : e₁.call.lookup = none)
    {o₁ : HardDrive} (h₁ : e₁.result = .ok o₁) :
    (∀ k o, d.cachedObjects k = some o → o.id ≠ o₁.id) ∧
      (∀ e₂ ∈ h, e₂.call.lookup ≠ none → ∀ o₂, e₂.result = .ok o₂ → o₂.id ≠ o₁.id) ∧
      ∀ (ctx : Context) (vm : VirtualMachine) (diskId : Option Nat) (config : Kwargs)
        (o₂ : HardDrive), Factory.cacheDisabled vm config = false →
        outcome ((Factory.getObject ctx vm diskId config).run d) = .ok o₂ →
        o₂.id ≠ o₁.id ∧
          (d.cachedObjects (Factory.cacheKey vm diskId config) = some o₂ ∨ o₂.id = d.nextId) ∧
          (after ((Factory.getObject ctx vm diskId config).run d)).cachedObjects
            (Factory.cacheKey vm diskId config) = some o₂ := by
  have hi := hr.cacheInv
  have apart : ∀ e₂ ∈ h, e₂.call.lookup ≠ none → ∀ o₂, e₂.result = .ok o₂ → o₂.id ≠ o₁.id :=
    fun e₂ he₂ hl₂ o₂ h₂ => (hi.separate e₁ he₁ hl e₂ he₂ hl₂ o₁ o₂ h₁ h₂).symm
  have uncached : ∀ k o, d.cachedObjects k = some o → o.id ≠ o₁.id := fun k o hc => by
    obtain ⟨e₂, he₂, hl₂, h₂⟩ := hi.cached_mem hc
    exact apart e₂ he₂ (by simp [hl₂]) o h₂
  refine ⟨uncached, apart, fun ctx vm diskId config o₂ hdis ho => ?_⟩
  have hcached := getObject_caches hdis ho
  rcases getObject_returned ho with ⟨hc, -⟩ | ⟨hid, -⟩
  · exact ⟨uncached _ _ hc, .inl hc, hcached⟩
  · have := hi.fresh e₁ he₁ o₁ h₁
    exact ⟨by omega, .inr hid, hcached⟩

theorem createThenLookup_apart :
    (∀ k o, (serve localMaster [createVm1, lookupVm1] (Daemon.initial, [])).1.cachedObjects k =
        some o → o.id ≠ 0) ∧
      (∀ e₂ ∈ (serve localMaster [createVm1, lookupVm1] (Daemon.initial, [])).2,
        e₂.call.lookup ≠ none → ∀ o₂, e₂.result = .ok o₂ → o₂.id ≠ 0) ∧
      ∀ (ctx : Context) (vm : VirtualMachine) (diskId : Option Nat) (config : Kwargs)
        (o₂ : HardDrive), Factory.cacheDisabled vm config = false →
        outcome ((Factory.getObject ctx vm diskId config).run
          (serve localMaster [createVm1, lookupVm1] (Daemon.initial, [])).1) = .ok o₂ →
        o₂.id ≠ 0 ∧
          ((serve localMaster [createVm1, lookupVm1] (Daemon.initial, [])).1.cachedObjects
              (Factory.cacheKey vm diskId config) = some o₂ ∨
            o₂.id = (serve localMaster [createVm1, lookupVm1] (Daemon.initial, [])).1.nextId) ∧
          (after ((Factory.getObject ctx vm diskId config).run
            (serve localMaster [createVm1, lookupVm1] (Daemon.initial, [])).1)).cachedObjects
            (Factory.cacheKey vm diskId config) = some o₂ :=
  @built_apart_from_lookups _ _ _ (@Reachable.serve localMaster _ _ .init [createVm1, lookupVm1])
    ⟨createVm1, .ok ⟨0, .Local, { vm := localVm ["node1"] }⟩⟩
    (List.mem_cons_of_mem _ (List.mem_cons_self _ _)) rfl _ rfl

/-- After `create` returned its object for `vm1`, a cache-enabled lookup of the object's key,
with no cache-disabled lookup in between, returns another object. -/
theorem lookup_after_create_builds_anew :
    ∃ o₁ o₂ d, serve localMaster [createVm1, lookupVm1] (Daemon.initial, []) =
        (d, [⟨lookupVm1, .ok o₂⟩, ⟨createVm1, .ok o₁⟩]) ∧
      Factory.cacheKey (localVm ["node1"]) none .empty =
        (o₁.args.vm.name, o₁.args.diskId, o₁.storageType.name) ∧
      Factory.cacheDisabled (localVm ["node1"]) .empty = false ∧ o₂.id ≠ o₁.id :=
  ⟨_, _, _, rfl, rfl, rfl, by decide⟩

end MCVirt
