import Mathlib.Data.Multiset.MapFold
import Mathlib.Data.Multiset.UnionInter
import Mathlib.Logic.Function.Basic

/-!
# Login sessions, abstractly

What a server with login sessions is for: a collection of active sessions,
each a name with the socket it was admitted on, and the user each live
connection acts for.  Between the check of a password and the admission the
user of a connection is only pending.  The steps say what can happen to the
two; the names, the sockets and the choice of a removed session are left open.

`Unique` is single login, and needs that only fresh names are verified.
`Owned` says that a session never outlives what its connection acts for, and
needs in addition that a connection logs in only while it acts for nobody.
-/

namespace RainTyping

/-- The user a connection acts for, `pending` until it is admitted. -/
structure Connection (Name : Type) where
  user : Name
  pending : Bool
  deriving DecidableEq

structure Sessions (Name Socket : Type) where
  active : Multiset (Name × Socket)
  connection : Socket → Option (Connection Name)

/-- The sessions after the removal of one session of the name, if any. -/
def Removed {Name Socket : Type} (user : Name)
    (before after : Multiset (Name × Socket)) : Prop :=
  (∃ socket, before = (user, socket) ::ₘ after) ∨
    (∀ session ∈ before, session.1 ≠ user) ∧ after = before

inductive SessionEvent (Name Socket : Type) where
  | other
  | connect (socket : Socket)
  | verify (socket : Socket) (user : Name)
  | reject (socket : Socket)
  | grant (socket : Socket)
  | refuse (socket : Socket)
  | logOut (socket : Socket)
  | disconnect (socket : Socket)
  deriving DecidableEq

namespace Sessions

variable {Name Socket : Type} [decidableSocket : DecidableEq Socket]

/-- Change what one connection acts for. -/
def connect (state : Sessions Name Socket) (socket : Socket) (user : Name)
    (pending : Bool) : Sessions Name Socket :=
  { state with
    connection :=
      Function.update state.connection socket (some ⟨user, pending⟩) }

def close (state : Sessions Name Socket) (socket : Socket) :
    Sessions Name Socket :=
  { state with connection := Function.update state.connection socket none }

inductive Step (nobody : Name) :
    Sessions Name Socket → SessionEvent Name Socket →
      Sessions Name Socket → Prop where
  | other (state) : Step nobody state .other state
  | connect (free : state.connection socket = none) :
      Step nobody state (.connect socket)
        (state.connect socket nobody false)
  | verify (user) (live : state.connection socket = some ⟨old, false⟩) :
      Step nobody state (.verify socket user) (state.connect socket user true)
  | reject (live : state.connection socket = some ⟨old, false⟩) :
      Step nobody state (.reject socket) (state.connect socket nobody false)
  | grant (live : state.connection socket = some ⟨user, true⟩) :
      Step nobody state (.grant socket)
        (connect ⟨(user, socket) ::ₘ state.active, state.connection⟩
          socket user false)
  | refuse (live : state.connection socket = some ⟨user, true⟩) :
      Step nobody state (.refuse socket) (state.connect socket nobody false)
  | logOut (live : state.connection socket = some ⟨user, false⟩)
      (named : user ≠ nobody) (removed : Removed user state.active remaining) :
      Step nobody state (.logOut socket)
        (connect ⟨remaining, state.connection⟩ socket nobody false)
  | disconnect (live : state.connection socket = some ⟨user, false⟩)
      (named : user ≠ nobody) (removed : Removed user state.active remaining) :
      Step nobody state (.disconnect socket)
        (close ⟨remaining, state.connection⟩ socket)
  | disconnectNobody (live : state.connection socket = some ⟨nobody, false⟩) :
      Step nobody state (.disconnect socket) (state.close socket)

/-- Nobody has a session of the name or waits for one. -/
def Fresh (state : Sessions Name Socket) (user : Name) : Prop :=
  (∀ socket, (user, socket) ∉ state.active) ∧
    ∀ socket, state.connection socket ≠ some ⟨user, true⟩

structure Unique (nobody : Name) (state : Sessions Name Socket) : Prop where
  names : (state.active.map Prod.fst).Nodup
  held : ∀ {socket user}, state.connection socket = some ⟨user, false⟩ →
    user ≠ nobody → (user, socket) ∈ state.active
  pending_free : ∀ {socket user},
    state.connection socket = some ⟨user, true⟩ →
      ∀ other, (user, other) ∉ state.active
  pending_apart : ∀ {first second user},
    state.connection first = some ⟨user, true⟩ →
      state.connection second = some ⟨user, true⟩ → first = second

/-- In addition every session is that of a connection which acts for it. -/
structure Owned (nobody : Name) (state : Sessions Name Socket) : Prop extends
    Unique nobody state where
  owner : ∀ {socket user}, (user, socket) ∈ state.active →
    state.connection socket = some ⟨user, false⟩ ∧ user ≠ nobody
  pending_named : ∀ {socket user},
    state.connection socket = some ⟨user, true⟩ → user ≠ nobody

/-- A password check that keeps sessions owned: it is made for a connection
that acts for nobody, and succeeds only for a proper and fresh name. -/
def Orderly (nobody : Name) (state : Sessions Name Socket) :
    SessionEvent Name Socket → Prop
  | .verify socket user =>
      state.Fresh user ∧ user ≠ nobody ∧
        state.connection socket = some ⟨nobody, false⟩
  | .reject socket => state.connection socket = some ⟨nobody, false⟩
  | _ => True

/-! ## Looking at one connection -/

section Updates

variable {state : Sessions Name Socket} {socket other : Socket}
  {user : Name} {pending : Bool} {connection : Connection Name}

@[simp] theorem connect_active :
    (state.connect socket user pending).active = state.active :=
  rfl

@[simp] theorem close_active : (state.close socket).active = state.active :=
  rfl

theorem connect_eq_some_iff :
    (state.connect socket user pending).connection other = some connection ↔
      other = socket ∧ ⟨user, pending⟩ = connection ∨
        other ≠ socket ∧ state.connection other = some connection := by
  by_cases same : other = socket
  · subst same
    simp [connect]
  · simp [connect, same]

theorem close_eq_some_iff :
    (state.close socket).connection other = some connection ↔
      other ≠ socket ∧ state.connection other = some connection := by
  by_cases same : other = socket
  · subst same
    simp [close]
  · simp [close, same]

end Updates

/-! ## Single login -/

section Unique

variable {nobody user : Name} {state next : Sessions Name Socket}
  {socket : Socket}

omit decidableSocket in
private theorem nodup_cons_names
    {active : Multiset (Name × Socket)}
    (free : ∀ other, (user, other) ∉ active)
    (names : (active.map Prod.fst).Nodup) :
    (((user, socket) ::ₘ active).map Prod.fst).Nodup := by
  rw [Multiset.map_cons, Multiset.nodup_cons]
  refine ⟨?_, names⟩
  intro member
  obtain ⟨⟨name, other⟩, listed, rfl⟩ := Multiset.mem_map.mp member
  exact free other listed

omit decidableSocket in
theorem Unique.socket_eq (unique : state.Unique nobody)
    {first second : Socket} (firstActive : (user, first) ∈ state.active)
    (secondActive : (user, second) ∈ state.active) : first = second := by
  have same := Multiset.inj_on_of_nodup_map unique.names _ firstActive _
    secondActive rfl
  exact (Prod.mk.inj same).2

omit decidableSocket in
/-- A removal in the name of a held session takes that session. -/
theorem Unique.removed (unique : state.Unique nobody)
    (live : state.connection socket = some ⟨user, false⟩)
    (named : user ≠ nobody) {remaining : Multiset (Name × Socket)}
    (removed : Removed user state.active remaining) :
    state.active = (user, socket) ::ₘ remaining ∧
      ∀ other, (user, other) ∉ remaining := by
  have heldSession := unique.held live named
  rcases removed with ⟨taken, split⟩ | ⟨absent, _⟩
  · have takenActive : (user, taken) ∈ state.active := by
      rw [split]
      exact Multiset.mem_cons_self _ _
    rw [unique.socket_eq takenActive heldSession] at split
    refine ⟨split, ?_⟩
    intro other member
    have names := unique.names
    rw [split, Multiset.map_cons, Multiset.nodup_cons] at names
    exact names.1 (Multiset.mem_map.mpr ⟨(user, other), member, rfl⟩)
  · exact absurd rfl (absent (user, socket) heldSession)

private theorem Unique.connect_nobody (unique : state.Unique nobody) :
    (state.connect socket nobody false).Unique nobody where
  names := unique.names
  held := by
    intro other user live named
    rcases connect_eq_some_iff.mp live with ⟨_, same⟩ | ⟨_, before⟩
    · exact absurd (congrArg Connection.user same).symm named
    · exact unique.held before named
  pending_free := by
    intro other user live
    rcases connect_eq_some_iff.mp live with ⟨_, same⟩ | ⟨_, before⟩
    · cases same
    · exact unique.pending_free before
  pending_apart := by
    intro first second user firstLive secondLive
    rcases connect_eq_some_iff.mp firstLive with ⟨_, same⟩ | ⟨_, firstBefore⟩
    · cases same
    · rcases connect_eq_some_iff.mp secondLive with
        ⟨_, same⟩ | ⟨_, secondBefore⟩
      · cases same
      · exact unique.pending_apart firstBefore secondBefore

private theorem Unique.close (unique : state.Unique nobody) :
    (state.close socket).Unique nobody where
  names := unique.names
  held := fun live => unique.held (close_eq_some_iff.mp live).2
  pending_free := fun live =>
    unique.pending_free (close_eq_some_iff.mp live).2
  pending_apart := fun firstLive secondLive =>
    unique.pending_apart (close_eq_some_iff.mp firstLive).2
      (close_eq_some_iff.mp secondLive).2

omit decidableSocket in
/-- Dropping the session of a connection that acts for nobody any more. -/
private theorem Unique.drop
    {remaining : Multiset (Name × Socket)} (unique : state.Unique nobody)
    (split : state.active = (user, socket) ::ₘ remaining)
    (away : ∀ {owner}, state.connection socket = some ⟨owner, false⟩ →
      owner = nobody) :
    Unique nobody ⟨remaining, state.connection⟩ where
  names := by
    have names := unique.names
    rw [split, Multiset.map_cons, Multiset.nodup_cons] at names
    exact names.2
  held := by
    intro other owner live named
    have listed := unique.held live named
    rw [split, Multiset.mem_cons] at listed
    rcases listed with same | kept
    · obtain ⟨rfl, rfl⟩ := Prod.mk.inj same
      exact absurd (away live) named
    · exact kept
  pending_free := by
    intro other owner live second member
    apply unique.pending_free live second
    rw [split]
    exact Multiset.mem_cons_of_mem member
  pending_apart := unique.pending_apart

private theorem Unique.verify
    (unique : state.Unique nobody) (fresh : state.Fresh user) :
    (state.connect socket user true).Unique nobody where
  names := unique.names
  held := by
    intro other owner live named
    rcases connect_eq_some_iff.mp live with ⟨_, same⟩ | ⟨_, before⟩
    · cases same
    · exact unique.held before named
  pending_free := by
    intro other owner live
    rcases connect_eq_some_iff.mp live with ⟨_, same⟩ | ⟨_, before⟩
    · cases same
      exact fresh.1
    · exact unique.pending_free before
  pending_apart := by
    intro first second owner firstLive secondLive
    rcases connect_eq_some_iff.mp firstLive with
      ⟨rfl, firstSame⟩ | ⟨_, firstBefore⟩
    · cases firstSame
      rcases connect_eq_some_iff.mp secondLive with
        ⟨secondSocket, _⟩ | ⟨_, secondBefore⟩
      · exact secondSocket.symm
      · exact absurd secondBefore (fresh.2 second)
    · rcases connect_eq_some_iff.mp secondLive with
        ⟨_, secondSame⟩ | ⟨_, secondBefore⟩
      · cases secondSame
        exact absurd firstBefore (fresh.2 first)
      · exact unique.pending_apart firstBefore secondBefore

private theorem Unique.grant
    (unique : state.Unique nobody)
    (live : state.connection socket = some ⟨user, true⟩) :
    (connect ⟨(user, socket) ::ₘ state.active, state.connection⟩
      socket user false).Unique nobody where
  names := nodup_cons_names (unique.pending_free live) unique.names
  held := by
    intro other owner held named
    rcases connect_eq_some_iff.mp held with ⟨rfl, same⟩ | ⟨_, before⟩
    · cases same
      exact Multiset.mem_cons_self _ _
    · exact Multiset.mem_cons_of_mem (unique.held before named)
  pending_free := by
    intro other owner pending
    rcases connect_eq_some_iff.mp pending with ⟨_, same⟩ | ⟨apart, before⟩
    · cases same
    · intro third member
      rcases Multiset.mem_cons.mp member with same | listed
      · cases same
        exact apart (unique.pending_apart before live)
      · exact unique.pending_free before third listed
  pending_apart := by
    intro first second owner firstLive secondLive
    rcases connect_eq_some_iff.mp firstLive with ⟨_, same⟩ | ⟨_, firstBefore⟩
    · cases same
    · rcases connect_eq_some_iff.mp secondLive with
        ⟨_, same⟩ | ⟨_, secondBefore⟩
      · cases same
      · exact unique.pending_apart firstBefore secondBefore

/-- Every step that verifies only fresh names keeps single login. -/
theorem Unique.step
    {event : SessionEvent Name Socket} (unique : state.Unique nobody)
    (fresh : ∀ socket user, event = .verify socket user → state.Fresh user)
    (stepped : Step nobody state event next) : next.Unique nobody := by
  cases stepped with
  | other => exact unique
  | connect free => exact unique.connect_nobody
  | verify user live => exact unique.verify (fresh _ user rfl)
  | reject live => exact unique.connect_nobody
  | grant live => exact unique.grant live
  | refuse live => exact unique.connect_nobody
  | logOut live named removed =>
      apply unique.connect_nobody.drop (unique.removed live named removed).1
      intro owner after
      rcases connect_eq_some_iff.mp after with ⟨_, same⟩ | ⟨apart, _⟩
      · exact (congrArg Connection.user same).symm
      · exact absurd rfl apart
  | disconnect live named removed =>
      apply unique.close.drop (unique.removed live named removed).1
      intro owner after
      exact absurd rfl (close_eq_some_iff.mp after).1
  | disconnectNobody live => exact unique.close

/-- A connection that ends takes no session of another one with it. -/
theorem Unique.disconnect_other
    (unique : state.Unique nobody)
    (stepped : Step nobody state (.disconnect socket) next)
    {session : Name × Socket} (apart : session.2 ≠ socket) :
    session ∈ next.active ↔ session ∈ state.active := by
  cases stepped with
  | disconnect live named removed =>
      rw [(unique.removed live named removed).1, Multiset.mem_cons]
      constructor
      · exact .inr
      · rintro (rfl | kept)
        · exact absurd rfl apart
        · exact kept
  | disconnectNobody live => exact Iff.rfl

omit decidableSocket in
theorem Unique.connection_eq
    (unique : state.Unique nobody) {first second : Socket}
    {firstPending secondPending : Bool} (named : user ≠ nobody)
    (firstLive : state.connection first = some ⟨user, firstPending⟩)
    (secondLive : state.connection second = some ⟨user, secondPending⟩) :
    first = second := by
  cases firstPending with
  | true =>
      cases secondPending with
      | true => exact unique.pending_apart firstLive secondLive
      | false =>
          exact absurd (unique.held secondLive named)
            (unique.pending_free firstLive second)
  | false =>
      cases secondPending with
      | true =>
          exact absurd (unique.held firstLive named)
            (unique.pending_free secondLive first)
      | false =>
          exact unique.socket_eq (unique.held firstLive named)
            (unique.held secondLive named)

end Unique

/-! ## Sessions and their owners -/

section Owned

variable {nobody user : Name} {state next : Sessions Name Socket}
  {socket : Socket}

/-- A connection without a session may change what it acts for. -/
private theorem owner_connect
    {pending : Bool}
    (owner : ∀ {other owner}, (owner, other) ∈ state.active →
      state.connection other = some ⟨owner, false⟩ ∧ owner ≠ nobody)
    (away : ∀ owner, (owner, socket) ∉ state.active)
    {other : Socket} {name : Name} (active : (name, other) ∈ state.active) :
    (state.connect socket user pending).connection other =
        some ⟨name, false⟩ ∧ name ≠ nobody := by
  refine ⟨connect_eq_some_iff.mpr (.inr ⟨?_, (owner active).1⟩),
    (owner active).2⟩
  rintro rfl
  exact away name active

omit decidableSocket in
private theorem Owned.no_session
    {pending : Bool} (owned : state.Owned nobody)
    (live : state.connection socket = some ⟨user, pending⟩)
    (free : pending = true ∨ user = nobody) (owner : Name) :
    (owner, socket) ∉ state.active := by
  intro active
  obtain ⟨same, named⟩ := owned.owner active
  rw [live] at same
  cases same
  rcases free with isPending | isNobody
  · cases isPending
  · exact named isNobody

omit decidableSocket in
/-- The sessions that stay when an owner's session is removed. -/
private theorem Owned.drop_owner
    {remaining : Multiset (Name × Socket)} (owned : state.Owned nobody)
    (split : state.active = (user, socket) ::ₘ remaining)
    (absent : ∀ other, (user, other) ∉ remaining)
    {name : Name} {other : Socket} (active : (name, other) ∈ remaining) :
    other ≠ socket ∧ state.connection other = some ⟨name, false⟩ ∧
      name ≠ nobody := by
  have listed : (name, other) ∈ state.active := by
    rw [split]
    exact Multiset.mem_cons_of_mem active
  refine ⟨?_, owned.owner listed⟩
  rintro rfl
  have removedOwner : (user, other) ∈ state.active := by
    rw [split]
    exact Multiset.mem_cons_self _ _
  have same := (owned.owner listed).1.symm.trans (owned.owner removedOwner).1
  cases same
  exact absent other active

private theorem connect_pending_named
    (pendingNamed : ∀ {other owner},
      state.connection other = some ⟨owner, true⟩ → owner ≠ nobody)
    {other : Socket} {name : Name}
    (live : (state.connect socket user false).connection other =
      some ⟨name, true⟩) : name ≠ nobody := by
  rcases connect_eq_some_iff.mp live with ⟨_, same⟩ | ⟨_, before⟩
  · cases same
  · exact pendingNamed before

theorem Owned.step
    {event : SessionEvent Name Socket} (owned : state.Owned nobody)
    (orderly : state.Orderly nobody event)
    (stepped : Step nobody state event next) : next.Owned nobody := by
  have unique : next.Unique nobody := by
    apply owned.toUnique.step _ stepped
    rintro socket user rfl
    exact orderly.1
  refine { unique with owner := ?_, pending_named := ?_ }
  · cases stepped with
    | other => exact owned.owner
    | connect free =>
        apply owner_connect owned.owner
        intro owner active
        rw [(owned.owner active).1] at free
        cases free
    | verify user live =>
        exact owner_connect owned.owner
          (owned.no_session orderly.2.2 (.inr rfl))
    | reject live =>
        exact owner_connect owned.owner
          (owned.no_session orderly (.inr rfl))
    | refuse live =>
        exact owner_connect owned.owner (owned.no_session live (.inl rfl))
    | grant live =>
        intro other name active
        rcases Multiset.mem_cons.mp active with same | listed
        · cases same
          exact ⟨connect_eq_some_iff.mpr (.inl ⟨rfl, rfl⟩),
            owned.pending_named live⟩
        · exact owner_connect owned.owner
            (owned.no_session live (.inl rfl)) listed
    | logOut live named removed =>
        obtain ⟨split, absent⟩ := owned.toUnique.removed live named removed
        intro other name active
        obtain ⟨apart, owner, isNamed⟩ :=
          owned.drop_owner split absent active
        exact ⟨connect_eq_some_iff.mpr (.inr ⟨apart, owner⟩), isNamed⟩
    | disconnect live named removed =>
        obtain ⟨split, absent⟩ := owned.toUnique.removed live named removed
        intro other name active
        obtain ⟨apart, owner, isNamed⟩ :=
          owned.drop_owner split absent active
        exact ⟨close_eq_some_iff.mpr ⟨apart, owner⟩, isNamed⟩
    | disconnectNobody live =>
        intro other name active
        refine ⟨close_eq_some_iff.mpr ⟨?_, (owned.owner active).1⟩,
          (owned.owner active).2⟩
        rintro rfl
        exact owned.no_session live (.inr rfl) name active
  · cases stepped with
    | other => exact owned.pending_named
    | connect free => exact connect_pending_named owned.pending_named
    | verify user live =>
        intro other name pending
        rcases connect_eq_some_iff.mp pending with ⟨_, same⟩ | ⟨_, before⟩
        · cases same
          exact orderly.2.1
        · exact owned.pending_named before
    | reject live => exact connect_pending_named owned.pending_named
    | refuse live => exact connect_pending_named owned.pending_named
    | grant live =>
        exact connect_pending_named owned.pending_named
    | logOut live named removed =>
        exact connect_pending_named owned.pending_named
    | disconnect live named removed =>
        exact fun pending =>
          owned.pending_named (close_eq_some_iff.mp pending).2
    | disconnectNobody live =>
        exact fun pending =>
          owned.pending_named (close_eq_some_iff.mp pending).2

omit decidableSocket in
theorem Owned.free
    (owned : state.Owned nobody)
    (absent : ∀ socket, state.connection socket ≠ some ⟨user, false⟩)
    (socket : Socket) : (user, socket) ∉ state.active :=
  fun active => absent socket (owned.owner active).1

end Owned

end Sessions

end RainTyping
