import MCVirt.HardDrive.Factory

namespace MCVirt

namespace Factory

theorem resolveStorageType_class {host : String} {n : Node} {t : Option String} {R : String}
    (h : resolveStorageType host n t = .ok R) : ∃ c ∈ getAvailableStorageTypes n, c.name = R := by
  rw [resolveStorageType_eq_ok] at h
  split at h
  · exact List.mem_map.1 h.2
  · exact List.mem_map.1 (h ▸ List.mem_singleton_self R)

theorem resolveStorageType_ne_empty {host : String} {n : Node} {t : Option String} {R : String}
    (h : resolveStorageType host n t = .ok R) : R ≠ "" := by
  obtain ⟨c, -, rfl⟩ := resolveStorageType_class h
  exact c.name_ne_empty

theorem remoteCommand_ok_iff_remote {ctx : Context} {size : Int} {R : String}
    {nodes : List String} {B : StorageBackend} {n : String} (hR : R ≠ "") :
    remoteCommand ctx size R nodes B n = .ok () ↔
      ∃ B', (ctx.node n).storageFactory.getObject B.name = .ok B' ∧
        ensureHddValid (ctx.remote n) size (some R) nodes (some B') = .ok R := by
  have ht : truthy (some R) = true := by simpa using hR
  rw [remoteCommand_eq_ok]
  refine exists_congr fun B' => and_congr_right fun _ => ?_
  rw [@ensureHddValid_of_not_master (ctx.remote n) size (some R) nodes (some B') rfl]
  dsimp only [Context.remote]
  constructor
  · rintro ⟨⟨R', B''⟩, hc⟩
    have hR' := resolveStorageType_eq_ok.1 (checkHdd_eq_ok.1 hc).1
    rw [if_pos ht] at hR'
    rw [hc, ← Option.some.inj hR'.1]
    rfl
  · intro h
    cases hc : checkHdd n (ctx.node n) size (some R) nodes (some B') with
    | error e => rw [hc] at h; cases h
    | ok p => exact ⟨p, rfl⟩

/-- On the cluster master, `ensure_hdd_valid` returns `R` exactly when its own checks settle on
`R` and a backend `B`, and every other node of `nodes`, running `ensure_hdd_valid` itself as a
non-master with `R` and its own backend named as `B`, returns `R` as well. -/
theorem ensureHddValid_master_iff_nodes {ctx : Context} {size : Int} {t : Option String}
    {nodes : List String} {b : Option StorageBackend} {R : String}
    (hm : ctx.isClusterMaster = true) :
    ensureHddValid ctx size t nodes b = .ok R ↔
      ∃ B, checkHdd ctx.hostname (ctx.node ctx.hostname) size t nodes b = .ok (R, B) ∧
        ∀ n ∈ nodes, n ≠ ctx.hostname →
          ∃ B', (ctx.node n).storageFactory.getObject B.name = .ok B' ∧
            ensureHddValid (ctx.remote n) size (some R) nodes (some B') = .ok R := by
  rw [ensureHddValid_eq_ok hm]
  exact exists_congr fun B => and_congr_right fun hc => forall₂_congr fun n _ =>
    imp_congr_right fun _ => remoteCommand_ok_iff_remote
      (resolveStorageType_ne_empty (checkHdd_eq_ok.1 hc).1)

theorem ensureHddValid_twoNodes_by_node :
    ∃ B, checkHdd "node1" (localOnlyNode (vg0 true)) 10 none ["node1", "node2"] none =
        .ok ("Local", B) ∧
      ∀ n ∈ ["node1", "node2"], n ≠ "node1" →
        ∃ B', (localOnlyNode (vg0 true)).storageFactory.getObject B.name = .ok B' ∧
          ensureHddValid ((masterOn fun _ => localOnlyNode (vg0 true)).remote n) 10
            (some "Local") ["node1", "node2"] (some B') = .ok "Local" :=
  (@ensureHddValid_master_iff_nodes (masterOn fun _ => localOnlyNode (vg0 true)) 10 none
    ["node1", "node2"] none "Local" rfl).1 rfl

/-- With no backend given, the master checks the space of the one backend `get_all` lists, and
`create` builds the object with no backend. -/
theorem create_drops_checked_backend :
    checkHdd "node1" (localOnlyNode (vg0 true)) 10 none ["node1"] none = .ok ("Local", vg0 true) ∧
      ∃ h d, (create (masterOn fun _ => localOnlyNode (vg0 true)) (localVm ["node1"]) 10 none
        none none).run Daemon.initial = .ok h d ∧ h.args.storageBackend = none :=
  ⟨rfl, _, _, rfl, rfl⟩

/-- The check `x` accepts with `a`, or raises `InsufficientSpaceException`. -/
def OkOrNoSpace {α : Type} (x : Except Error α) (a : α) : Prop :=
  x = .ok a ∨ ∃ msg, x = .error (.InsufficientSpaceException msg)

theorem OkOrNoSpace.bind {α β : Type} {x : Except Error α} {f : α → Except Error β} {a : α} {b : β}
    (hx : OkOrNoSpace x a) (hf : OkOrNoSpace (f a) b) : OkOrNoSpace (x >>= f) b := by
  rcases hx with rfl | ⟨msg, rfl⟩
  · exact hf
  · exact .inr ⟨msg, rfl⟩

section Size

variable {ctx : Context} {s s' : Int} {t : Option String} {nodes : List String}
  {b : Option StorageBackend} {R : String}

theorem checkHdd_resize {host : String} {n : Node} {B : StorageBackend}
    (h : checkHdd host n s t nodes b = .ok (R, B)) (s' : Int) :
    checkHdd host n s' t nodes b =
      if B.freeSpace < s' then
        .error (.InsufficientSpaceException ("Attempted to create a disk with " ++ toString s' ++
          " MiB, but there is only " ++ toString B.freeSpace ++
          " MiB of free space available on node " ++ host ++ "."))
      else .ok (R, B) := by
  obtain ⟨hR, hB, -⟩ := checkHdd_eq_ok.1 h
  simp only [checkHdd, hR, hB, bind, Except.bind]
  by_cases hlt : B.freeSpace < s' <;> simp [hlt]
  rfl

theorem remoteCommand_resize {B : StorageBackend} {n : String}
    (h : remoteCommand ctx s R nodes B n = .ok ()) (s' : Int) :
    OkOrNoSpace (remoteCommand ctx s' R nodes B n) () ∧
      (s' ≤ s → remoteCommand ctx s' R nodes B n = .ok ()) := by
  obtain ⟨B', hB', ⟨R', B''⟩, hc⟩ := remoteCommand_eq_ok.1 h
  have hs := (checkHdd_eq_ok.1 hc).2.2
  simp only [remoteCommand, hB', bind, Except.bind, checkHdd_resize hc s']
  split
  · exact ⟨.inr ⟨_, rfl⟩, fun hle => absurd hle (by omega)⟩
  · exact ⟨.inl rfl, fun _ => rfl⟩

theorem runRemoteCommand_okOrNoSpace {f : String → Except Error Unit}
    (h : ∀ n ∈ nodes, OkOrNoSpace (f n) ()) : OkOrNoSpace (runRemoteCommand nodes f) () := by
  induction nodes with
  | nil => exact .inl rfl
  | cons n nodes ih =>
    simp only [List.mem_cons, forall_eq_or_imp] at h
    rw [runRemoteCommand_cons]
    rcases h.1 with hn | ⟨msg, hn⟩ <;> rw [hn]
    · exact ih h.2
    · exact .inr ⟨msg, rfl⟩

theorem checkHdd_okOrNoSpace {host : String} {n : Node} {B : StorageBackend}
    (h : checkHdd host n s t nodes b = .ok (R, B)) (s' : Int) :
    OkOrNoSpace (checkHdd host n s' t nodes b) (R, B) ∧
      (s' ≤ s → checkHdd host n s' t nodes b = .ok (R, B)) := by
  have hs := (checkHdd_eq_ok.1 h).2.2
  rw [checkHdd_resize h s']
  split
  · exact ⟨.inr ⟨_, rfl⟩, fun hle => absurd hle (by omega)⟩
  · exact ⟨.inl rfl, fun _ => rfl⟩

theorem ensureHddValid_resize (h : ensureHddValid ctx s t nodes b = .ok R) (s' : Int) :
    OkOrNoSpace (ensureHddValid ctx s' t nodes b) R ∧
      (s' ≤ s → ensureHddValid ctx s' t nodes b = .ok R) := by
  cases hm : ctx.isClusterMaster
  · rw [ensureHddValid_of_not_master hm] at h ⊢
    cases hc : checkHdd ctx.hostname (ctx.node ctx.hostname) s t nodes b with
    | error e => rw [hc] at h; cases h
    | ok p =>
      obtain ⟨R', B⟩ := p
      rw [hc] at h
      cases h
      obtain ⟨hno, hle⟩ := checkHdd_okOrNoSpace hc s'
      refine ⟨?_, fun hs => by rw [hle hs]; rfl⟩
      rcases hno with hx | ⟨msg, hx⟩ <;> rw [hx]
      · exact .inl rfl
      · exact .inr ⟨msg, rfl⟩
  · obtain ⟨B, hc, hr⟩ := (ensureHddValid_eq_ok hm).1 h
    have hrem : ∀ n ∈ nodes.filter (· != ctx.hostname), remoteCommand ctx s R nodes B n = .ok () := by
      intro n hn
      simp only [List.mem_filter, bne_iff_ne, ne_eq] at hn
      exact hr n hn.1 (by simpa using hn.2)
    obtain ⟨hno, hle⟩ := checkHdd_okOrNoSpace hc s'
    refine ⟨?_, fun hs => (ensureHddValid_eq_ok hm).2
      ⟨B, hle hs, fun n hn hne => (remoteCommand_resize (hr n hn hne) s').2 hs⟩⟩
    simp only [ensureHddValid, hm, if_true]
    exact hno.bind (OkOrNoSpace.bind (runRemoteCommand_okOrNoSpace fun n hn =>
      (remoteCommand_resize (hrem n hn) s').1) (.inl rfl))

/-- Only the space checks of `create` depend on the size: once they accept a size, they accept
every smaller one with the same storage type, and at any size they accept or raise
`InsufficientSpaceException`, on the master or on any node the check reaches. -/
theorem createChecks_resize {vm : VirtualMachine} (h : createChecks ctx vm s t b = .ok R)
    (s' : Int) :
    OkOrNoSpace (createChecks ctx vm s' t b) R ∧ (s' ≤ s → createChecks ctx vm s' t b = .ok R) := by
  obtain ⟨hperm, he, hvm⟩ := createChecks_eq_ok.1 h
  obtain ⟨hno, hle⟩ := ensureHddValid_resize he s'
  refine ⟨?_, fun hs => createChecks_eq_ok.2 ⟨hperm, hle hs, hvm⟩⟩
  rcases hno with he' | ⟨msg, he'⟩
  · exact .inl (createChecks_eq_ok.2 ⟨hperm, he', hvm⟩)
  · refine .inr ⟨msg, ?_⟩
    simp only [createChecks, assertPermission, hperm, if_true, he', bind, Except.bind]

end Size

theorem createChecks_resize_twoNodes :
    createChecks (masterOn fun _ => localOnlyNode (vg0 true)) (localVm ["node1", "node2"]) 100
        none none = .ok "Local" ∧
      OkOrNoSpace (createChecks (masterOn fun _ => localOnlyNode (vg0 true))
        (localVm ["node1", "node2"]) 200 none none) "Local" ∧
      createChecks (masterOn fun _ => localOnlyNode (vg0 true)) (localVm ["node1", "node2"]) 50
        none none = .ok "Local" :=
  have h : createChecks (masterOn fun _ => localOnlyNode (vg0 true)) (localVm ["node1", "node2"])
      100 none none = .ok "Local" := rfl
  ⟨h, (createChecks_resize h 200).1, (createChecks_resize h 50).2 (by decide)⟩

end Factory

end MCVirt
