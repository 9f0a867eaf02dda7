import MCVirt.HardDrive.Cache

namespace MCVirt

/-- Registered objects have distinct identities, all below `n`. -/
def FreshBelow (registered : List HardDrive) (n : Nat) : Prop :=
  (∀ o ∈ registered, o.id < n) ∧ (registered.map HardDrive.id).Nodup

namespace FreshBelow

variable {registered : List HardDrive} {n : Nat}

theorem mono (hf : FreshBelow registered n) {n' : Nat} (hn : n ≤ n') :
    FreshBelow registered n' :=
  ⟨fun o ho => lt_of_lt_of_le (hf.1 o ho) hn, hf.2⟩

theorem cons (hf : FreshBelow registered n) {o : HardDrive} (ho : o.id = n) :
    FreshBelow (o :: registered) (n + 1) := by
  refine ⟨fun o' h' => ?_, List.nodup_cons.2 ⟨fun hm => ?_, hf.2⟩⟩
  · rcases List.mem_cons.1 h' with rfl | h'
    · omega
    · exact Nat.lt_succ_of_lt (hf.1 o' h')
  · obtain ⟨o', h', hid⟩ := List.mem_map.1 hm
    exact absurd (hf.1 o' h') (by omega)

theorem register {d : Daemon} (hf : FreshBelow d.registered d.nextId) {o : HardDrive}
    (ho : o.id = d.nextId) (b : Bool) :
    FreshBelow (registerObject b o { d with nextId := d.nextId + 1 }).registered (d.nextId + 1) := by
  rw [registerObject_registered]
  cases b
  · exact hf.mono (Nat.le_succ _)
  · exact hf.cons ho

end FreshBelow

/-- The calls whose object the factory itself registers: `getObject` and `create`. `Local.clone`
registers its new disk with the Pyro daemon of its source disk, if that one is registered. -/
def Call.viaFactory : Call → Bool
  | .clone .. => false
  | _ => true

namespace BuildsFrom

variable {d : Daemon} {r : EStateM.Result Error Daemon HardDrive}

theorem after_eq (hb : BuildsFrom d r) :
    after r = d ∨ ∃ o b, o.id = d.nextId ∧
      after r = registerObject b o { d with nextId := d.nextId + 1 } := by
  obtain ⟨e, rfl⟩ | ⟨o, b, hid, ⟨e, rfl⟩ | rfl⟩ := hb
  · exact .inl rfl
  all_goals exact .inr ⟨o, b, hid, rfl⟩

theorem registered_subset (hb : BuildsFrom d r) : d.registered ⊆ (after r).registered := by
  rcases hb.after_eq with h | ⟨o, b, -, h⟩ <;> rw [h]
  · exact List.Subset.refl _
  · rw [registerObject_registered]
    cases b
    · exact List.Subset.refl _
    · exact List.subset_cons_self _ _

theorem freshBelow (hb : BuildsFrom d r) (hf : FreshBelow d.registered d.nextId) :
    FreshBelow (after r).registered (after r).nextId := by
  rcases hb.after_eq with h | ⟨o, b, hid, h⟩ <;> rw [h]
  · exact hf
  · rw [registerObject_nextId]
    exact hf.register hid b

end BuildsFrom

theorem create_registered {ctx : Context} {vm : VirtualMachine} {size : Int}
    {t driver : Option String} {b : Option StorageBackend} {d : Daemon} {o : HardDrive}
    (hpyro : ctx.pyroInitialised = true)
    (ho : outcome ((Factory.create ctx vm size t driver b).run d) = .ok o) :
    o ∈ (after ((Factory.create ctx vm size t driver b).run d)).registered := by
  cases hr : (Factory.create ctx vm size t driver b).run d with
  | error e d' => rw [hr] at ho; cases ho
  | ok o' d' =>
    rw [hr, outcome_ok, Except.ok.injEq] at ho
    subst ho
    rw [after_ok, Factory.create_run] at *
    split at hr
    · rw [Factory.createBuild_run] at hr
      split at hr
      · contradiction
      · split at hr
        · contradiction
        · dsimp only at hr
          split at hr
          · contradiction
          · cases hr
            simp [registerObject_registered, hpyro]
    · contradiction

section Lookup

open Factory

variable {ctx : Context} {vm : VirtualMachine} {diskId : Option Nat} {config : Kwargs}
  {d : Daemon}

theorem getObject_registry :
    ((after ((getObject ctx vm diskId config).run d)).registered = d.registered ∧
        (after ((getObject ctx vm diskId config).run d)).nextId = d.nextId ∧
        ∀ o, outcome ((getObject ctx vm diskId config).run d) = .ok o →
          d.cachedObjects (cacheKey vm diskId config) = some o) ∨
      ∃ o, outcome ((getObject ctx vm diskId config).run d) = .ok o ∧ o.id = d.nextId ∧
        (after ((getObject ctx vm diskId config).run d)).nextId = d.nextId + 1 ∧
        (after ((getObject ctx vm diskId config).run d)).registered =
          (registerObject ctx.pyroInitialised o d).registered := by
  cases hk : (evictIf (cacheDisabled vm config) (cacheKey vm diskId config) d).cachedObjects
      (cacheKey vm diskId config) with
  | some o' =>
    rw [getObject_found hk]
    refine .inl ⟨evictIf_registered _ _ _, evictIf_nextId _ _ _, fun o ho => ?_⟩
    rw [outcome_ok, Except.ok.injEq] at ho
    exact ho ▸ cachedObjects_of_evictIf hk
  | none =>
    cases ho : outcome ((getObject ctx vm diskId config).run d) with
    | error e =>
      rw [getObject_raised ho]
      exact .inl ⟨evictIf_registered _ _ _, evictIf_nextId _ _ _, fun _ h => by cases h⟩
    | ok o =>
      obtain ⟨hid, -, hn, hreg⟩ := getObject_built hk ho
      exact .inr ⟨o, rfl, hid, hn, hreg⟩

theorem getObject_cachedObjects_new {k : CacheKey} {o : HardDrive}
    (hk : (after ((getObject ctx vm diskId config).run d)).cachedObjects k = some o) :
    d.cachedObjects k = some o ∨ outcome ((getObject ctx vm diskId config).run d) = .ok o := by
  rw [getObject_cachedObjects, Function.update_apply] at hk
  split_ifs at hk with hkey
  · subst hkey
    split at hk
    next o' hc => exact .inl (hc.trans hk)
    next => exact .inr (Except.toOption_eq_some.1 hk)
  · exact .inl hk

end Lookup

/-- What holds of the Pyro registry after the calls `h`, with the factory attached to the Pyro
daemon: no identity is registered twice, and every cached object is registered, and so is
every object that a lookup or `create` returned. -/
structure RegistryInv (d : Daemon) (h : List Event) : Prop where
  fresh : FreshBelow d.registered d.nextId
  cached : ∀ k o, d.cachedObjects k = some o → o ∈ d.registered
  returned : ∀ e ∈ h, e.call.viaFactory = true → ∀ o, e.result = .ok o → o ∈ d.registered

namespace RegistryInv

variable {ctx : Context} {d : Daemon} {h : List Event}

theorem initial : RegistryInv Daemon.initial [] where
  fresh := ⟨fun _ h => (by cases h), List.nodup_nil⟩
  cached _ _ h := by cases h
  returned _ he := by cases he

theorem step_build (hi : RegistryInv d h) {c : Call} (hc : c.lookup = none)
    (hret : c.viaFactory = true → ∀ o, outcome ((c.run ctx).run d) = .ok o →
      o ∈ (after ((c.run ctx).run d)).registered) :
    RegistryInv (after ((c.run ctx).run d)) (⟨c, outcome ((c.run ctx).run d)⟩ :: h) := by
  have hb := Call.buildsFrom ctx hc d
  refine ⟨hb.freshBelow hi.fresh,
    fun k o hk => hb.registered_subset (hi.cached k o (hb.cachedObjects ▸ hk)), ?_⟩
  intro e he hv o ho
  rcases List.mem_cons.1 he with rfl | he
  · exact hret hv o ho
  · exact hb.registered_subset (hi.returned e he hv o ho)

theorem step_getObject (hpyro : ctx.pyroInitialised = true) (hi : RegistryInv d h)
    (vm : VirtualMachine) (diskId : Option Nat) (config : Kwargs) :
    RegistryInv (after ((Factory.getObject ctx vm diskId config).run d))
      (⟨.getObject vm diskId config, outcome ((Factory.getObject ctx vm diskId config).run d)⟩ ::
        h) := by
  rcases @getObject_registry ctx vm diskId config d with ⟨hreg, hn, hret⟩ | ⟨o, ho, hid, hn, hreg⟩
  · refine ⟨by rw [hreg, hn]; exact hi.fresh, fun k o hk => hreg ▸ ?_, fun e he _ o ho => hreg ▸ ?_⟩
    · rcases getObject_cachedObjects_new hk with hk | hk
      exacts [hi.cached k o hk, hi.cached _ _ (hret o hk)]
    · rcases List.mem_cons.1 he with rfl | he
      exacts [hi.cached _ _ (hret o ho), hi.returned e he ‹_› o ho]
  · rw [registerObject_registered, hpyro, if_pos rfl] at hreg
    refine ⟨by rw [hreg, hn]; exact hi.fresh.cons hid, fun k o' hk => hreg ▸ ?_,
      fun e he _ o' ho' => hreg ▸ ?_⟩
    · rcases getObject_cachedObjects_new hk with hk | hk
      · exact List.mem_cons_of_mem _ (hi.cached k o' hk)
      · rw [ho, Except.ok.injEq] at hk
        exact hk ▸ List.mem_cons_self _ _
    · rcases List.mem_cons.1 he with rfl | he
      · rw [ho, Except.ok.injEq] at ho'
        exact ho' ▸ List.mem_cons_self _ _
      · exact List.mem_cons_of_mem _ (hi.returned e he ‹_› o' ho')

end RegistryInv

/-- With the factory attached to the Pyro daemon, every reachable state keeps the registry
invariant: no object is registered twice, so the daemon never asks Pyro to register an object
it already holds, and every object the factory hands out, cached or returned, is registered. -/
theorem Reachable.registryInv {d : Daemon} {h : List Event} (hr : Reachable true d h) :
    RegistryInv d h := by
  induction hr with
  | init => exact .initial
  | step ctx c hpyro _ ih =>
    cases c with
    | getObject vm diskId config => exact ih.step_getObject hpyro vm diskId config
    | create => exact ih.step_build rfl fun _ _ ho => create_registered hpyro ho
    | clone => exact ih.step_build rfl fun h => by cases h

theorem registryInv_after_createThenLookup :
    RegistryInv (serve localMaster [createVm1, lookupVm1] (Daemon.initial, [])).1
      (serve localMaster [createVm1, lookupVm1] (Daemon.initial, [])).2 :=
  Reachable.registryInv (@Reachable.serve localMaster _ _ .init [createVm1, lookupVm1])

end MCVirt
