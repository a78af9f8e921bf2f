import Mathlib.Logic.Relation
import Vnts.Handler

/-
`register` releases the group's write lock at line 362 and only then inserts the two
sessions, each behind its own `await`. Registrations handled at the same time can
therefore interleave their session inserts in any order. This file models that window:
a registration is its locked section, then its ip session insert, then its address
session insert, and any number of registrations take these steps in any interleaving.

The forward sessions need not agree with the directory. Two registrations of one device
from two addresses whose inserts run in the opposite order to their locked sections leave
the ip session at the first address and the directory entry at the second, with nothing
pending. They agree in every settled state of a run in which, for each group and virtual
ip, a registration's ip session insert comes before the next locked section for the same
group and virtual ip. What every interleaving keeps, ordered or not, is weaker: each session
names a group and a virtual ip that hold an entry, so an address that has a session has a
context.
-/

namespace Vnts

/-! ### Registrations in flight -/

/-- A registration past its locked section that has not inserted both sessions: its group,
its virtual ip, its address, and whether its ip session is in. -/
structure Pending where
  group : String
  virtualIp : BitVec 32
  addr : SocketAddr
  ipInserted : Bool
  deriving DecidableEq, Repr

/-- The ip session key of a registration in flight. -/
def Pending.key (pending : Pending) : String × BitVec 32 :=
  (pending.group, pending.virtualIp)

/-- The caches, and the registrations in flight in the order their locked sections ran. -/
structure System where
  cache : AppCache
  pending : List Pending

/-- The steps of registrations handled at the same time. -/
inductive System.Step (handler : ServerPacketHandler) : System → System → Prop
  /-- Lines 242-363 under the group's write lock, committed: the two inserts are left to
  run. -/
  | commit {system : System} (request : RegistrationRequest) (addr : SocketAddr)
      (tcpSender : Option TcpSender) (virtualIp : BitVec 32) :
      (handler.registerLocked system.cache request addr tcpSender).1.map Prod.fst = .ok virtualIp →
      Step handler system ⟨(handler.registerLocked system.cache request addr tcpSender).2,
        system.pending ++ [⟨request.token, virtualIp, addr, false⟩]⟩
  /-- A registration refused before or under the lock. -/
  | refuse {system : System} (request : RegistrationRequest) (addr : SocketAddr)
      (tcpSender : Option TcpSender) (e : Error) :
      (handler.registerLocked system.cache request addr tcpSender).1 = .error e →
      Step handler system ⟨(handler.registerLocked system.cache request addr tcpSender).2,
        system.pending⟩
  /-- Lines 364-366: `insert_ip_session` of a registration in flight. -/
  | insertIpSession {system : System} (pre post : List Pending) (pending : Pending) :
      system.pending = pre ++ pending :: post → pending.ipInserted = false →
      Step handler system ⟨system.cache.insertIpSession pending.key pending.addr,
        pre ++ { pending with ipInserted := true } :: post⟩
  /-- Lines 367-369: `insert_addr_session`, the registration's last write. -/
  | insertAddrSession {system : System} (pre post : List Pending) (pending : Pending) :
      system.pending = pre ++ pending :: post → pending.ipInserted = true →
      Step handler system ⟨system.cache.insertAddrSession pending.addr pending.key, pre ++ post⟩

/-- The state of a server that has just started: empty caches, nothing in flight. -/
def System.start : System := ⟨AppCache.empty, []⟩

/-- At most one registration per group and virtual ip waits for its ip session insert. -/
def System.Ordered (system : System) : Prop :=
  ((system.pending.filter fun pending => !pending.ipInserted).map Pending.key).Nodup

instance (system : System) : Decidable system.Ordered :=
  inferInstanceAs (Decidable (List.Nodup _))

section Lookup

variable (handler : ServerPacketHandler) (cache : AppCache) (request : RegistrationRequest)
  (addr : SocketAddr) (tcpSender : Option TcpSender)

@[simp] theorem AppCache.lookup_setNetwork (group : String) (info : NetworkInfo)
    (key : String × BitVec 32) :
    (cache.setNetwork group info).lookup key =
      if key.1 = group then info.clients.lookup key.2 else cache.lookup key := by
  unfold AppCache.lookup
  split_ifs with same <;> simp [same]

@[simp] theorem AppCache.lookup_insertIpSession (key : String × BitVec 32) (addr : SocketAddr)
    (key' : String × BitVec 32) : (cache.insertIpSession key addr).lookup key' = cache.lookup key' :=
  rfl

@[simp] theorem AppCache.lookup_insertAddrSession (addr : SocketAddr) (session : String × BitVec 32)
    (key : String × BitVec 32) : (cache.insertAddrSession addr session).lookup key = cache.lookup key :=
  rfl

/-- The entries of a group's directory as get-or-create returns it are the group's
entries: a new directory has none. -/
theorem AppCache.lookup_getD (key : String × BitVec 32) :
    ((cache.virtualNetwork key.1).getD handler.config.newNetwork).clients.lookup key.2 =
      cache.lookup key := by
  unfold AppCache.lookup
  cases cache.virtualNetwork key.1 <;> rfl

/-- A refused registration changes no entry. -/
theorem ServerPacketHandler.registerLocked_lookup_of_error {e : Error}
    (refused : (handler.registerLocked cache request addr tcpSender).1 = .error e)
    (key : String × BitVec 32) :
    (handler.registerLocked cache request addr tcpSender).2.lookup key = cache.lookup key := by
  rcases handler.registerLocked_cases cache request addr tcpSender with
    ⟨_, -, locked⟩ | ⟨-, -, locked⟩ | ⟨-, -, _, -, locked⟩ | ⟨-, -, _, _, -, locked⟩ <;>
    rw [locked] at refused ⊢
  · rw [AppCache.lookup_setNetwork]
    split_ifs with same
    · rw [← same]; exact AppCache.lookup_getD handler cache key
    · rfl
  · cases refused

/-- A committed registration writes the entry at its group and virtual ip, with its
address, and no other entry. -/
theorem ServerPacketHandler.registerLocked_lookup_of_commit {virtualIp : BitVec 32}
    (committed : (handler.registerLocked cache request addr tcpSender).1.map Prod.fst =
      .ok virtualIp) :
    (∃ entry, (handler.registerLocked cache request addr tcpSender).2.lookup
        (request.token, virtualIp) = some entry ∧ entry.address = addr) ∧
      ∀ key, key ≠ (request.token, virtualIp) →
        (handler.registerLocked cache request addr tcpSender).2.lookup key = cache.lookup key := by
  rcases handler.registerLocked_cases cache request addr tcpSender with
    ⟨_, -, locked⟩ | ⟨-, -, locked⟩ | ⟨-, -, _, -, locked⟩ |
      ⟨-, -, virtualIp', info', enrolled, locked⟩ <;>
    rw [locked] at committed ⊢ <;> cases committed
  obtain ⟨-, rfl⟩ := register_eq_ok.1 enrolled
  dsimp only
  refine ⟨⟨_, by rw [AppCache.lookup_setNetwork, if_pos rfl, enroll_lookup, if_pos rfl], rfl⟩,
    fun key other => ?_⟩
  rw [AppCache.lookup_setNetwork]
  split_ifs with same
  · have otherIp : key.2 ≠ virtualIp' := fun sameIp => other (Prod.ext same sameIp)
    rw [enroll_lookup, if_neg otherIp, ← same]
    exact AppCache.lookup_getD handler cache key
  · rfl

/-- The locked section writes no session. -/
theorem ServerPacketHandler.registerLocked_ipSession :
    (handler.registerLocked cache request addr tcpSender).2.ipSession = cache.ipSession := by
  rcases handler.registerLocked_cases cache request addr tcpSender with
    ⟨_, -, locked⟩ | ⟨-, -, locked⟩ | ⟨-, -, _, -, locked⟩ | ⟨-, -, _, _, -, locked⟩ <;>
    rw [locked] <;> rfl

/-- Nor does it write an address session or a cipher session. -/
theorem ServerPacketHandler.registerLocked_addrSession_cipherSession :
    (handler.registerLocked cache request addr tcpSender).2.addrSession = cache.addrSession ∧
      (handler.registerLocked cache request addr tcpSender).2.cipherSession =
        cache.cipherSession := by
  rcases handler.registerLocked_cases cache request addr tcpSender with
    ⟨_, -, locked⟩ | ⟨-, -, locked⟩ | ⟨-, -, _, -, locked⟩ | ⟨-, -, _, _, -, locked⟩ <;>
    rw [locked] <;> exact ⟨rfl, rfl⟩

end Lookup

/-! ### Ordered runs keep the sessions in agreement -/

/-- What an ordered run keeps: a registration waiting for its ip session insert sits at
its key with its address, and an ip session agrees with the directory unless a
registration for its key waits for its insert. -/
structure System.Invariant (system : System) : Prop where
  waiting : ∀ pending ∈ system.pending, pending.ipInserted = false →
    ∃ entry, system.cache.lookup pending.key = some entry ∧ entry.address = pending.addr
  agree : ∀ key addr entry, system.cache.ipSession key = some addr →
    system.cache.lookup key = some entry →
    entry.address = addr ∨ ∃ pending ∈ system.pending, pending.ipInserted = false ∧ pending.key = key

theorem System.invariant_start : System.start.Invariant where
  waiting _ member := nomatch member
  agree _ _ _ session := nomatch session

/-- A registration other than the one a step takes out of the list stays in it. -/
theorem mem_split_of_ne {pre post : List Pending} {pending other : Pending}
    (member : other ∈ pre ++ pending :: post) (distinct : other ≠ pending) :
    other ∈ pre ++ post := by
  simp only [List.mem_append, List.mem_cons] at member ⊢
  rcases member with inPre | same | inPost
  · exact .inl inPre
  · exact absurd same distinct
  · exact .inr inPost

theorem mem_split_of_mem {pre post : List Pending} {pending other : Pending}
    (member : other ∈ pre ++ post) : other ∈ pre ++ pending :: post := by
  simp only [List.mem_append, List.mem_cons] at member ⊢
  rcases member with inPre | inPost
  · exact .inl inPre
  · exact .inr (.inr inPost)

theorem System.Invariant.step {handler : ServerPacketHandler} {system system' : System}
    (invariant : system.Invariant) (step : System.Step handler system system')
    (ordered : system'.Ordered) : system'.Invariant := by
  cases step with
  | commit request addr tcpSender virtualIp committed =>
    obtain ⟨⟨entry, held, address⟩, other⟩ :=
      handler.registerLocked_lookup_of_commit system.cache request addr tcpSender committed
    have fresh : ∀ pending ∈ system.pending, pending.ipInserted = false →
        pending.key ≠ (request.token, virtualIp) := by
      intro pending member waiting same
      simp only [System.Ordered, List.filter_append, List.map_append, List.nodup_append] at ordered
      exact ordered.2.2 (List.mem_map.2 ⟨pending, List.mem_filter.2 ⟨member, by simp [waiting]⟩, same⟩)
        (by simp [Pending.key])
    constructor
    · intro pending member waiting
      rcases List.mem_append.1 member with old | new
      · rw [other _ (fresh pending old waiting)]
        exact invariant.waiting pending old waiting
      · rw [List.mem_singleton.1 new]
        exact ⟨entry, held, address⟩
    · intro key addr' entry' session held'
      by_cases same : key = (request.token, virtualIp)
      · exact .inr ⟨_, List.mem_append_right _ (List.mem_singleton_self _), rfl, same.symm⟩
      rw [other key same] at held'
      rw [handler.registerLocked_ipSession] at session
      exact (invariant.agree key addr' entry' session held').imp_right
        fun ⟨pending, member, waiting, keyed⟩ => ⟨pending, List.mem_append_left _ member, waiting, keyed⟩
  | refuse request addr tcpSender e refused =>
    have same := handler.registerLocked_lookup_of_error system.cache request addr tcpSender refused
    refine ⟨fun pending member waiting => ?_, fun key addr' entry' session held' => ?_⟩
    · rw [same]
      exact invariant.waiting pending member waiting
    · rw [handler.registerLocked_ipSession] at session
      rw [same] at held'
      exact invariant.agree key addr' entry' session held'
  | insertIpSession pre post inserted split insertedWaiting =>
    have insertedIn : inserted ∈ system.pending := by simp [split]
    refine ⟨fun pending member waiting => ?_, fun key addr' entry' session held' => ?_⟩
    · have distinct : pending ≠ { inserted with ipInserted := true } := by
        rintro rfl; cases waiting
      exact invariant.waiting pending (split ▸ mem_split_of_mem (mem_split_of_ne member distinct))
        waiting
    · by_cases same : key = inserted.key
      · subst same
        simp only [AppCache.insertIpSession_ipSession, Function.update_same, Option.some.injEq]
          at session
        obtain ⟨entry, held, address⟩ := invariant.waiting inserted insertedIn insertedWaiting
        rw [AppCache.lookup_insertIpSession, held, Option.some.injEq] at held'
        exact .inl (by rw [← held', address, session])
      · simp only [AppCache.insertIpSession_ipSession, Function.update_noteq same] at session
        exact (invariant.agree key addr' entry' session held').imp_right
          fun ⟨pending, member, waiting, keyed⟩ =>
            have distinct : pending ≠ inserted := by rintro rfl; exact same keyed.symm
            ⟨pending, mem_split_of_mem (mem_split_of_ne (split ▸ member) distinct), waiting, keyed⟩
  | insertAddrSession pre post inserted split insertedDone =>
    refine ⟨fun pending member waiting => ?_, fun key addr' entry' session held' => ?_⟩
    · exact invariant.waiting pending (split ▸ mem_split_of_mem member) waiting
    · exact (invariant.agree key addr' entry' session held').imp_right
        fun ⟨pending, member, waiting, keyed⟩ =>
          have distinct : pending ≠ inserted := by
            rintro rfl; rw [waiting] at insertedDone; cases insertedDone
          ⟨pending, mem_split_of_ne (split ▸ member) distinct, waiting, keyed⟩

theorem System.Invariant.of_reachable {handler : ServerPacketHandler} {system : System}
    (reachable : Relation.ReflTransGen
      (fun system system' => System.Step handler system system' ∧ system'.Ordered)
      System.start system) : system.Invariant := by
  induction reachable with
  | refl => exact System.invariant_start
  | tail _ step inductionHypothesis => exact inductionHypothesis.step step.1 step.2

/-- What every interleaving keeps, ordered or not: each registration in flight, each ip
session and each address session names a group and a virtual ip that hold an entry. -/
structure System.Anchored (system : System) : Prop where
  pending : ∀ pending ∈ system.pending, ∃ entry, system.cache.lookup pending.key = some entry
  ipSession : ∀ key addr, system.cache.ipSession key = some addr →
    ∃ entry, system.cache.lookup key = some entry
  addrSession : ∀ addr key, system.cache.addrSession addr = some key →
    ∃ entry, system.cache.lookup key = some entry

theorem System.anchored_start : System.start.Anchored where
  pending _ member := nomatch member
  ipSession _ _ session := nomatch session
  addrSession _ _ session := nomatch session

theorem System.Anchored.step {handler : ServerPacketHandler} {system system' : System}
    (anchored : system.Anchored) (step : System.Step handler system system') :
    system'.Anchored := by
  cases step with
  | commit request addr tcpSender virtualIp committed =>
    obtain ⟨⟨entry, held, -⟩, other⟩ :=
      handler.registerLocked_lookup_of_commit system.cache request addr tcpSender committed
    have kept : ∀ key, (∃ entry, system.cache.lookup key = some entry) →
        ∃ entry, (handler.registerLocked system.cache request addr tcpSender).2.lookup key =
          some entry := by
      intro key present
      by_cases same : key = (request.token, virtualIp)
      · exact ⟨entry, by rw [same]; exact held⟩
      · rw [other key same]; exact present
    refine ⟨fun pending member => ?_, fun key addr' session => ?_, fun addr' key session => ?_⟩
    · rcases List.mem_append.1 member with old | new
      · exact kept _ (anchored.pending pending old)
      · rw [List.mem_singleton.1 new]; exact ⟨entry, held⟩
    · rw [handler.registerLocked_ipSession] at session
      exact kept key (anchored.ipSession key addr' session)
    · rw [(handler.registerLocked_addrSession_cipherSession _ _ _ _).1] at session
      exact kept key (anchored.addrSession addr' key session)
  | refuse request addr tcpSender e refused =>
    have same := handler.registerLocked_lookup_of_error system.cache request addr tcpSender refused
    refine ⟨fun pending member => ?_, fun key addr' session => ?_, fun addr' key session => ?_⟩
    · rw [same]; exact anchored.pending pending member
    · rw [handler.registerLocked_ipSession] at session
      rw [same]; exact anchored.ipSession key addr' session
    · rw [(handler.registerLocked_addrSession_cipherSession _ _ _ _).1] at session
      rw [same]; exact anchored.addrSession addr' key session
  | insertIpSession pre post inserted split _ =>
    have insertedIn : inserted ∈ system.pending := by simp [split]
    refine ⟨fun pending member => ?_, fun key addr' session => ?_, fun addr' key session => ?_⟩
    · by_cases same : pending = { inserted with ipInserted := true }
      · rw [same]; exact anchored.pending inserted insertedIn
      · exact anchored.pending pending (split ▸ mem_split_of_mem (mem_split_of_ne member same))
    · simp only [AppCache.insertIpSession_ipSession] at session
      by_cases same : key = inserted.key
      · rw [same]; exact anchored.pending inserted insertedIn
      · rw [Function.update_noteq same] at session
        exact anchored.ipSession key addr' session
    · exact anchored.addrSession addr' key session
  | insertAddrSession pre post inserted split _ =>
    have insertedIn : inserted ∈ system.pending := by simp [split]
    refine ⟨fun pending member => ?_, fun key addr' session => ?_, fun addr' key session => ?_⟩
    · exact anchored.pending pending (split ▸ mem_split_of_mem member)
    · exact anchored.ipSession key addr' session
    · simp only [AppCache.insertAddrSession_addrSession] at session
      by_cases same : addr' = inserted.addr
      · rw [same, Function.update_same, Option.some.injEq] at session
        rw [← session]; exact anchored.pending inserted insertedIn
      · rw [Function.update_noteq same] at session
        exact anchored.addrSession addr' key session

theorem System.Anchored.of_reachable {handler : ServerPacketHandler} {system : System}
    (reachable : Relation.ReflTransGen (System.Step handler) System.start system) :
    system.Anchored := by
  induction reachable with
  | refl => exact System.anchored_start
  | tail _ step inductionHypothesis => exact inductionHypothesis.step step

/-- Under every interleaving of concurrent registrations, ordered or not, every ip session
and every address session names a group whose directory holds an entry at its virtual ip.
So an address that has an address session always has a context, even in the interleavings in
which an ip session and the entry it names disagree on the address. -/
theorem sessions_anchored (handler : ServerPacketHandler) {system : System}
    (reachable : Relation.ReflTransGen (System.Step handler) System.start system) :
    (∀ key addr, system.cache.ipSession key = some addr →
      ∃ entry, system.cache.lookup key = some entry) ∧
    ∀ addr group virtualIp, system.cache.addrSession addr = some (group, virtualIp) →
      ∃ info entry, system.cache.getContext addr = some ⟨group, info, virtualIp⟩ ∧
        info.clients.lookup virtualIp = some entry := by
  have anchored := System.Anchored.of_reachable reachable
  refine ⟨anchored.ipSession, fun addr group virtualIp session => ?_⟩
  obtain ⟨entry, held⟩ := anchored.addrSession addr _ session
  obtain ⟨info, current, found⟩ := Option.bind_eq_some.1 held
  exact ⟨info, entry, AppCache.getContext_eq_some.2 ⟨session, current⟩, found⟩

/-- The two registrations of `sessions_disagree_reordered`, run to the end under the same
schedule: nothing is left in flight. -/
theorem reordered_registrations_settle :
    ∃ system, Relation.ReflTransGen
        (System.Step ⟨⟨0x0A000001, 0xFFFFFF00, 0x0A0000FF, none⟩, none, "1.2.16"⟩) System.start
        system ∧
      system.pending = [] :=
  ⟨_, .tail (.tail (.tail (.tail (.tail
      (.single (.commit ⟨"T", "D", "D", 0, false, false⟩ ⟨.v4 0xCB007105, 4000⟩ none 0x0A000002
        (by decide)))
      (.commit ⟨"T", "D", "D", 0, false, false⟩ ⟨.v4 0xC6336407, 5000⟩ none 0x0A000002
        (by decide)))
      (.insertIpSession [⟨"T", 0x0A000002, ⟨.v4 0xCB007105, 4000⟩, false⟩] []
        ⟨"T", 0x0A000002, ⟨.v4 0xC6336407, 5000⟩, false⟩ rfl rfl))
      (.insertAddrSession [⟨"T", 0x0A000002, ⟨.v4 0xCB007105, 4000⟩, false⟩] []
        ⟨"T", 0x0A000002, ⟨.v4 0xC6336407, 5000⟩, true⟩ rfl rfl))
      (.insertIpSession [] [] ⟨"T", 0x0A000002, ⟨.v4 0xCB007105, 4000⟩, false⟩ rfl rfl))
      (.insertAddrSession [] [] ⟨"T", 0x0A000002, ⟨.v4 0xCB007105, 4000⟩, true⟩ rfl rfl),
    rfl⟩

theorem sessions_anchored_reordered :
    let handler : ServerPacketHandler :=
      ⟨⟨0x0A000001, 0xFFFFFF00, 0x0A0000FF, none⟩, none, "1.2.16"⟩
    ∃ system, Relation.ReflTransGen (System.Step handler) System.start system ∧
      (∀ key addr, system.cache.ipSession key = some addr →
        ∃ entry, system.cache.lookup key = some entry) ∧
      ∀ addr group virtualIp, system.cache.addrSession addr = some (group, virtualIp) →
        ∃ info entry, system.cache.getContext addr = some ⟨group, info, virtualIp⟩ ∧
          info.clients.lookup virtualIp = some entry :=
  let ⟨system, run, _⟩ := reordered_registrations_settle
  ⟨system, run, sessions_anchored _ run⟩

end Vnts
