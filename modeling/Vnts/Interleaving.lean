import Vnts.Sessions

/-
This file carries two results of the sequential runs over to `Vnts.Concurrent`, where the
registrations handled at the same time insert their sessions in any order.

The directories stay what the write lock makes of them. Under every interleaving every group
holds a directory that its group reaches by the operations of `Vnts.Invariant`, so the
directory invariants proved there hold of it, and every group is one the allowlist admits.

And no session insert is lost. Once no registration is in flight, the keys with an ip
session are exactly the keys that hold an entry, and the address of every entry has a
context. Which address an ip session names a settled state may still get wrong, as
`sessions_disagree_reordered` shows; that there is one, it never gets wrong.
-/

namespace Vnts

/-! ### The directories under the write lock -/

theorem AppCache.Reachable.setNetwork {config : ConfigInfo} {cache : AppCache}
    (reachable : cache.Reachable config) {group : String} {info : NetworkInfo}
    (directory : Vnts.Reachable config info) : (cache.setNetwork group info).Reachable config := by
  intro group' info' found
  rw [AppCache.setNetwork_virtualNetwork] at found
  by_cases same : group' = group
  · rw [same, Function.update_same, Option.some.injEq] at found
    exact found ▸ directory
  · rw [Function.update_noteq same] at found
    exact reachable _ _ found

/-- The locked section writes its group a directory the group reaches: the group's own, a new
one, or one of these after the registration's update. -/
theorem ServerPacketHandler.registerLocked_reachable (handler : ServerPacketHandler)
    {cache : AppCache} (reachable : cache.Reachable handler.config) (request : RegistrationRequest)
    (addr : SocketAddr) (tcpSender : Option TcpSender) :
    (handler.registerLocked cache request addr tcpSender).2.Reachable handler.config := by
  rcases handler.registerLocked_cases cache request addr tcpSender with
    ⟨_, -, locked⟩ | ⟨-, -, locked⟩ | ⟨-, -, _, -, locked⟩ | ⟨-, -, _, info', enrolled, locked⟩ <;>
    rw [locked]
  · exact reachable
  · exact reachable
  · exact reachable.setNetwork (reachable.getD request.token)
  · have applied : ((cache.virtualNetwork request.token).getD handler.config.newNetwork).apply
        handler.config (.register request addr tcpSender) = info' := by
      simp only [NetworkInfo.apply, enrolled]
    exact reachable.setNetwork (applied ▸ (reachable.getD request.token).apply _)

/-- What the write lock keeps of the directories under any interleaving: each is one its group
reaches, and each group is one the allowlist admits. -/
structure System.Guarded (system : System) (handler : ServerPacketHandler) : Prop where
  reachable : system.cache.Reachable handler.config
  allowed : ∀ group info, system.cache.virtualNetwork group = some info →
    handler.config.allowsToken group = true

theorem System.guarded_start (handler : ServerPacketHandler) : System.start.Guarded handler where
  reachable := AppCache.reachable_empty handler.config
  allowed _ _ absent := nomatch absent

theorem System.Guarded.step {handler : ServerPacketHandler} {system system' : System}
    (guarded : system.Guarded handler) (step : System.Step handler system system') :
    system'.Guarded handler := by
  have locked : ∀ request addr tcpSender pending,
      System.Guarded ⟨(handler.registerLocked system.cache request addr tcpSender).2, pending⟩
        handler := by
    intro request addr tcpSender _
    refine ⟨handler.registerLocked_reachable guarded.reachable request addr tcpSender,
      fun group info found => ?_⟩
    rcases handler.registerLocked_virtualNetwork system.cache request addr tcpSender group with
      untouched | ⟨rfl, allowed, -⟩
    · exact guarded.allowed group info (untouched ▸ found)
    · exact allowed
  cases step with
  | commit request addr tcpSender => exact locked request addr tcpSender _
  | refuse request addr tcpSender => exact locked request addr tcpSender _
  | insertIpSession => exact ⟨guarded.reachable, guarded.allowed⟩
  | insertAddrSession => exact ⟨guarded.reachable, guarded.allowed⟩

/-- Under every interleaving of concurrent registrations every group is one the allowlist
admits, and its directory is well formed: its entries sit at usable addresses of the range,
each keyed by its own virtual ip, with no device id twice. -/
theorem interleaved_directories_wellFormed (handler : ServerPacketHandler) {system : System}
    (reachable : Relation.ReflTransGen (System.Step handler) System.start system) :
    ∀ group info, system.cache.virtualNetwork group = some info →
      handler.config.allowsToken group = true ∧ info.WellFormed handler.config := by
  have guarded : system.Guarded handler := by
    induction reachable with
    | refl => exact System.guarded_start handler
    | tail _ step inductionHypothesis => exact inductionHypothesis.step step
  exact fun group info found =>
    ⟨guarded.allowed group info found, (guarded.reachable group info found).wellFormed⟩

theorem interleaved_directories_wellFormed_reordered :
    let handler : ServerPacketHandler :=
      ⟨⟨0x0A000001, 0xFFFFFF00, 0x0A0000FF, none⟩, none, "1.2.16"⟩
    ∃ system, Relation.ReflTransGen (System.Step handler) System.start system ∧
      ∀ group info, system.cache.virtualNetwork group = some info →
        handler.config.allowsToken group = true ∧ info.WellFormed handler.config :=
  let ⟨system, run, _⟩ := reordered_registrations_settle
  ⟨system, run, interleaved_directories_wellFormed _ run⟩

/-! ### No session insert is lost -/

/-- What every interleaving keeps of the entries: each key that holds an entry has an ip
session, or a registration in flight for it waits for its ip session insert; and the address
of each entry has an address session, or a registration in flight from that address waits
for its address session insert. -/
structure System.Complete (system : System) : Prop where
  ipSession : ∀ key entry, system.cache.lookup key = some entry →
    (system.cache.ipSession key).isSome ∨
      ∃ pending ∈ system.pending, pending.ipInserted = false ∧ pending.key = key
  addrSession : ∀ key entry, system.cache.lookup key = some entry →
    (system.cache.addrSession entry.address).isSome ∨
      ∃ pending ∈ system.pending, pending.addr = entry.address

theorem System.complete_start : System.start.Complete where
  ipSession _ _ held := nomatch held
  addrSession _ _ held := nomatch held

theorem System.Complete.step {handler : ServerPacketHandler} {system system' : System}
    (complete : system.Complete) (step : System.Step handler system system') :
    system'.Complete := by
  cases step with
  | commit request addr tcpSender virtualIp committed =>
    obtain ⟨⟨entry, held, address⟩, other⟩ :=
      handler.registerLocked_lookup_of_commit system.cache request addr tcpSender committed
    have added : (⟨request.token, virtualIp, addr, false⟩ : Pending) ∈
        system.pending ++ [⟨request.token, virtualIp, addr, false⟩] :=
      List.mem_append_right _ (List.mem_singleton_self _)
    refine ⟨fun key entry' found => ?_, fun key entry' found => ?_⟩
    · by_cases same : key = (request.token, virtualIp)
      · exact .inr ⟨_, added, rfl, same.symm⟩
      rw [other key same] at found
      rw [handler.registerLocked_ipSession]
      exact (complete.ipSession key entry' found).imp_right
        fun ⟨pending, member, waiting, keyed⟩ =>
          ⟨pending, List.mem_append_left _ member, waiting, keyed⟩
    · by_cases same : key = (request.token, virtualIp)
      · rw [same, held, Option.some.injEq] at found
        exact .inr ⟨_, added, by rw [← found, address]⟩
      rw [other key same] at found
      rw [(handler.registerLocked_addrSession_cipherSession _ _ _ _).1]
      exact (complete.addrSession key entry' found).imp_right
        fun ⟨pending, member, address'⟩ => ⟨pending, List.mem_append_left _ member, address'⟩
  | refuse request addr tcpSender e refused =>
    have same := handler.registerLocked_lookup_of_error system.cache request addr tcpSender refused
    refine ⟨fun key entry found => ?_, fun key entry found => ?_⟩
    · rw [handler.registerLocked_ipSession]
      exact complete.ipSession key entry (by rw [← same]; exact found)
    · rw [(handler.registerLocked_addrSession_cipherSession _ _ _ _).1]
      exact complete.addrSession key entry (by rw [← same]; exact found)
  | insertIpSession pre post inserted split _ =>
    refine ⟨fun key entry found => ?_, fun key entry found => ?_⟩
    · by_cases same : key = inserted.key
      · exact .inl (by rw [same, AppCache.insertIpSession_ipSession, Function.update_same]; rfl)
      rw [AppCache.insertIpSession_ipSession, Function.update_noteq same]
      exact (complete.ipSession key entry found).imp_right
        fun ⟨pending, member, waiting, keyed⟩ =>
          have distinct : pending ≠ inserted := by rintro rfl; exact same keyed.symm
          ⟨pending, mem_split_of_mem (mem_split_of_ne (split ▸ member) distinct), waiting, keyed⟩
    · refine (complete.addrSession key entry found).imp_right fun ⟨pending, member, address⟩ => ?_
      by_cases same : pending = inserted
      · exact ⟨{ inserted with ipInserted := true }, by simp, same ▸ address⟩
      · exact ⟨pending, mem_split_of_mem (mem_split_of_ne (split ▸ member) same), address⟩
  | insertAddrSession pre post inserted split inserted' =>
    refine ⟨fun key entry found => ?_, fun key entry found => ?_⟩
    · refine (complete.ipSession key entry found).imp_right
        fun ⟨pending, member, waiting, keyed⟩ => ⟨pending, ?_, waiting, keyed⟩
      have distinct : pending ≠ inserted := by
        rintro rfl; rw [waiting] at inserted'; cases inserted'
      exact mem_split_of_ne (split ▸ member) distinct
    · rw [AppCache.insertAddrSession_addrSession]
      rcases complete.addrSession key entry found with present | ⟨pending, member, address⟩
      · exact .inl (isSome_update_some present)
      by_cases same : pending = inserted
      · exact .inl (by rw [← address, same, Function.update_same]; rfl)
      · exact .inr ⟨pending, mem_split_of_ne (split ▸ member) same, address⟩

theorem System.Complete.of_reachable {handler : ServerPacketHandler} {system : System}
    (reachable : Relation.ReflTransGen (System.Step handler) System.start system) :
    system.Complete := by
  induction reachable with
  | refl => exact System.complete_start
  | tail _ step inductionHypothesis => exact inductionHypothesis.step step

/-- No session insert is lost, whatever the interleaving. In every state of a run of
concurrent registrations in which none is in flight, the keys with an ip session are exactly
the keys that hold an entry, and the address of every entry has a context: an address session
naming a group that exists. -/
theorem settled_sessions_complete (handler : ServerPacketHandler) {system : System}
    (reachable : Relation.ReflTransGen (System.Step handler) System.start system)
    (settled : system.pending = []) :
    (∀ key, (system.cache.ipSession key).isSome = (system.cache.lookup key).isSome) ∧
    ∀ key entry, system.cache.lookup key = some entry →
      (system.cache.getContext entry.address).isSome := by
  have complete := System.Complete.of_reachable reachable
  have anchored := System.Anchored.of_reachable reachable
  refine ⟨fun key => ?_, fun key entry found => ?_⟩
  · rcases held : system.cache.lookup key with _ | entry
    · rcases session : system.cache.ipSession key with _ | addr
      · rfl
      · obtain ⟨entry, present⟩ := anchored.ipSession key addr session
        rw [held] at present
        cases present
    · rcases complete.ipSession key entry held with present | ⟨_, member, -⟩
      · exact present
      · rw [settled] at member; cases member
  · rcases complete.addrSession key entry found with present | ⟨_, member, -⟩
    · obtain ⟨⟨group, virtualIp⟩, session⟩ := Option.isSome_iff_exists.1 present
      obtain ⟨_, held⟩ := anchored.addrSession _ _ session
      obtain ⟨info, current, -⟩ := Option.bind_eq_some.1 held
      exact AppCache.getContext_isSome.2 ⟨group, virtualIp, session, by rw [current]; rfl⟩
    · rw [settled] at member; cases member

theorem settled_sessions_complete_reordered :
    let handler : ServerPacketHandler :=
      ⟨⟨0x0A000001, 0xFFFFFF00, 0x0A0000FF, none⟩, none, "1.2.16"⟩
    ∃ system, Relation.ReflTransGen (System.Step handler) System.start system ∧
      system.pending = [] ∧
      (∀ key, (system.cache.ipSession key).isSome = (system.cache.lookup key).isSome) ∧
      ∀ key entry, system.cache.lookup key = some entry →
        (system.cache.getContext entry.address).isSome :=
  let ⟨system, run, settled⟩ := reordered_registrations_settle
  ⟨system, run, settled, settled_sessions_complete _ run settled⟩

end Vnts
