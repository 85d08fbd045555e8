import RainTyping.Client.ClientSteps
import RainTyping.Network.Deployment
import RainTyping.Network.HandlerWork

/-!
# Clients and handlers agree

Between any two steps of a deployment, a handler that has nothing to do acts
for the user its client is logged in as, and a handler at work does so on the
one request that its client waits for.
-/

namespace RainTyping

namespace Deployment

/-- The handler of the socket waits for a request, or has left its loop. -/
def Waits (deployment : Deployment) (socket : Nat)
    (user : CharArray maxIdLen) : Prop :=
  ∃ handler, deployment.server.handlers socket = some handler ∧
    handler.currentUser = user ∧
      (handler.stage = .receiving ∨ handler.stage = .leaving)

/-- The handler of a connection does what the connection says. -/
def HandlerFits (deployment : Deployment) (socket : Nat) (link : Link) :
    Prop :=
  match link.traffic with
  | .idle => deployment.Waits socket link.user
  | .requested function =>
      deployment.Waits socket link.user ∧
        (function.asksToEnter = true → link.user = .empty)
  | .handling function =>
      deployment.server.WorksOn socket link.user function

/-- Nothing is under way to or from the client. -/
def AtRest (deployment : Deployment) (id : Nat) : Prop :=
  deployment.inboxes id = none ∧
    ∀ socket link, deployment.AtEnd id socket link →
      link.traffic = .idle ∧ link.user = (deployment.clients id).userId

/-- The request of the client has not been answered. -/
def IsAsked (deployment : Deployment) (id : Nat) (function : RequestFunction) :
    Prop :=
  deployment.inboxes id = none ∧
    ∀ socket link, deployment.AtEnd id socket link →
      link.user = (deployment.clients id).userId ∧
        (link.traffic = .requested function ∨
          link.traffic = .handling function)

/-- The response has come. -/
def IsAnswered (deployment : Deployment) (id : Nat)
    (function : RequestFunction) : Prop :=
  ∃ response after, deployment.inboxes id = some response ∧
    RepliesTo deployment.server.wordlist (deployment.clients id).userId
        function response after ∧
      ∀ socket link, deployment.AtEnd id socket link →
        link.traffic = .idle ∧ link.user = after

/-- The connection of a client does what the client waits for. -/
structure ClientFits (deployment : Deployment) (id : Nat) : Prop where
  atRest : (∀ function, ¬(deployment.clients id).Awaits function) →
    deployment.AtRest id
  inCall : ∀ function, (deployment.clients id).Awaits function →
    deployment.IsAsked id function ∨ deployment.IsAnswered id function

structure Linked (deployment : Deployment) : Prop where
  conforms : ∀ id, (deployment.clients id).Conforms
  sockets : ∀ id, (deployment.clients id).connected = true ↔
    ∃ socket, deployment.sockets id = some socket
  handlers : ∀ socket link, deployment.links socket = some link →
    deployment.HandlerFits socket link
  clients : ∀ id, (deployment.clients id).connected = true →
    (deployment.clients id).sigintReceived = false → deployment.ClientFits id

/-- The same for all clients but one. -/
structure LinkedBut (deployment : Deployment) (id : Nat) : Prop where
  conforms : ∀ id, (deployment.clients id).Conforms
  sockets : ∀ id, (deployment.clients id).connected = true ↔
    ∃ socket, deployment.sockets id = some socket
  handlers : ∀ socket link, deployment.links socket = some link →
    deployment.HandlerFits socket link
  others : ∀ other, other ≠ id →
    (deployment.clients other).connected = true →
      (deployment.clients other).sigintReceived = false →
        deployment.ClientFits other

theorem LinkedBut.linked
    {deployment : Deployment} {id : Nat} (linked : deployment.LinkedBut id)
    (fits : (deployment.clients id).connected = true →
      (deployment.clients id).sigintReceived = false →
        deployment.ClientFits id) :
    deployment.Linked where
  conforms := linked.conforms
  sockets := linked.sockets
  handlers := linked.handlers
  clients := by
    intro other
    by_cases own : other = id
    · subst own
      exact fits
    · exact linked.others other own

theorem Linked.but
    {deployment : Deployment} (linked : deployment.Linked) (id : Nat) :
    deployment.LinkedBut id where
  conforms := linked.conforms
  sockets := linked.sockets
  handlers := linked.handlers
  others := fun other _ => linked.clients other

variable {qsort : QSort} {sha256 : Sha256} {deployment next : Deployment}
  {id other socket : Nat} {link : Link} {client : Client}

/-! ## What does not change -/

theorem connection_eq_some_iff :
    deployment.connection id = some (socket, link) ↔
      deployment.AtEnd id socket link := by
  simp only [connection, AtEnd, Option.bind_eq_some_iff,
    Option.ite_none_right_eq_some, Option.some.injEq, Prod.mk.injEq]
  constructor
  · rintro ⟨socket', found, link', linked, owned, rfl, rfl⟩
    exact ⟨found, linked, owned⟩
  · rintro ⟨found, linked, owned⟩
    exact ⟨socket, found, link, linked, owned, rfl, rfl⟩

theorem AtEnd.client_eq
    {link' : Link} (first : deployment.AtEnd id socket link)
    (second : deployment.AtEnd other socket link') : id = other := by
  obtain ⟨_, firstLinked, rfl⟩ := first
  obtain ⟨_, secondLinked, rfl⟩ := second
  rw [firstLinked] at secondLinked
  cases secondLinked
  rfl

theorem ClientFits.congr
    (fits : deployment.ClientFits id)
    (sameClient : next.clients id = deployment.clients id)
    (sameInbox : next.inboxes id = deployment.inboxes id)
    (sameWords : next.server.wordlist = deployment.server.wordlist)
    (atEnd : ∀ socket link, next.AtEnd id socket link →
      deployment.AtEnd id socket link) :
    next.ClientFits id where
  atRest := by
    rw [sameClient]
    intro outside
    obtain ⟨inbox, ends⟩ := fits.atRest outside
    refine ⟨sameInbox.trans inbox, ?_⟩
    intro socket link stillEnd
    rw [sameClient]
    exact ends socket link (atEnd socket link stillEnd)
  inCall := by
    rw [sameClient]
    intro function awaits
    rcases fits.inCall function awaits with
      ⟨inbox, ends⟩ | ⟨response, after, inbox, replies, ends⟩
    · refine .inl ⟨sameInbox.trans inbox, ?_⟩
      intro socket link stillEnd
      rw [sameClient]
      exact ends socket link (atEnd socket link stillEnd)
    · refine .inr ⟨response, after, sameInbox.trans inbox, ?_, ?_⟩
      · rw [sameWords, sameClient]
        exact replies
      · intro socket link stillEnd
        exact ends socket link (atEnd socket link stillEnd)

theorem HandlerFits.congr
    (fits : deployment.HandlerFits socket link)
    (sameHandler : next.server.handlers socket =
      deployment.server.handlers socket)
    (sameWords : next.server.wordlist = deployment.server.wordlist) :
    next.HandlerFits socket link := by
  unfold HandlerFits Waits Server.WorksOn at fits ⊢
  rw [sameHandler, sameWords]
  exact fits

theorem HandlerFits.live
    (fits : deployment.HandlerFits socket link) :
    ∃ handler, deployment.server.handlers socket = some handler := by
  unfold HandlerFits at fits
  split at fits
  · obtain ⟨handler, live, _⟩ := fits
    exact ⟨handler, live⟩
  · obtain ⟨⟨handler, live, _⟩, _⟩ := fits
    exact ⟨handler, live⟩
  · obtain ⟨handler, live, _⟩ := fits
    exact ⟨handler, live⟩

@[simp] theorem setClient_server :
    (deployment.setClient id client).server = deployment.server :=
  rfl

@[simp] theorem setClient_links :
    (deployment.setClient id client).links = deployment.links :=
  rfl

@[simp] theorem setClient_inboxes :
    (deployment.setClient id client).inboxes = deployment.inboxes :=
  rfl

@[simp] theorem setClient_self :
    (deployment.setClient id client).clients id = client :=
  Function.update_self _ _ _

theorem setClient_other (apart : other ≠ id) :
    (deployment.setClient id client).clients other =
      deployment.clients other :=
  Function.update_of_ne apart _ _

theorem setClient_sockets_other (apart : other ≠ id) :
    (deployment.setClient id client).sockets other =
      deployment.sockets other := by
  simp only [setClient]
  split
  · rfl
  · exact Function.update_of_ne apart _ _

/-- A client that takes a step keeps its connection or gives it up. -/
theorem sockets_setClient
    (sockets : ∀ id, (deployment.clients id).connected = true ↔
      ∃ socket, deployment.sockets id = some socket)
    (kept : client.connected = true →
      (deployment.clients id).connected = true) (other : Nat) :
    ((deployment.setClient id client).clients other).connected = true ↔
      ∃ socket, (deployment.setClient id client).sockets other =
        some socket := by
  by_cases own : other = id
  · subst own
    rw [setClient_self]
    simp only [setClient]
    split
    · rename_i connected
      exact iff_of_true connected ((sockets other).mp (kept connected))
    · rename_i unconnected
      rw [Function.update_self]
      simp [unconnected]
  · rw [setClient_other own, setClient_sockets_other own]
    exact sockets other

theorem atEnd_setClient
    (atEnd : (deployment.setClient id client).AtEnd other socket link) :
    deployment.AtEnd other socket link := by
  obtain ⟨found, linked, owned⟩ := atEnd
  refine ⟨?_, linked, owned⟩
  by_cases own : other = id
  · subst own
    simp only [setClient] at found
    split at found
    · exact found
    · rw [Function.update_self] at found
      cases found
  · rw [setClient_sockets_other own] at found
    exact found

theorem LinkedBut.setClient
    (linked : deployment.LinkedBut id) (conforms : client.Conforms)
    (kept : client.connected = true →
      (deployment.clients id).connected = true) :
    (deployment.setClient id client).LinkedBut id where
  conforms := by
    intro other
    by_cases own : other = id
    · subst own
      rw [setClient_self]
      exact conforms
    · rw [setClient_other own]
      exact linked.conforms other
  sockets := sockets_setClient linked.sockets kept
  handlers := fun socket link found =>
    (linked.handlers socket link found).congr rfl rfl
  others := by
    intro other own connected quiet
    rw [setClient_other own] at connected quiet
    exact (linked.others other own connected quiet).congr
      (setClient_other own) rfl rfl (fun _ _ atEnd => atEnd_setClient atEnd)

theorem LinkedBut.takeInbox (linked : deployment.LinkedBut id) :
    (deployment.takeInbox id).LinkedBut id where
  conforms := linked.conforms
  sockets := linked.sockets
  handlers := fun socket link found =>
    (linked.handlers socket link found).congr rfl rfl
  others := by
    intro other own connected quiet
    exact (linked.others other own connected quiet).congr rfl
      (Function.update_of_ne own _ _) rfl (fun _ _ atEnd => atEnd)

theorem LinkedBut.setLink
    {link' : Link} (linked : deployment.LinkedBut id)
    (atEnd : deployment.AtEnd id socket link)
    (same : link'.client = link.client)
    (fits : deployment.HandlerFits socket link') :
    (deployment.setLink socket link').LinkedBut id where
  conforms := linked.conforms
  sockets := linked.sockets
  handlers := by
    intro place found stands
    by_cases own : place = socket
    · subst own
      simp only [Deployment.setLink, Function.update_self] at stands
      cases stands
      exact fits.congr rfl rfl
    · simp only [Deployment.setLink, Function.update_of_ne own] at stands
      exact (linked.handlers place found stands).congr rfl rfl
  others := by
    intro other own connected quiet
    refine (linked.others other own connected quiet).congr rfl rfl rfl ?_
    rintro place found ⟨sockets, stands, owned⟩
    by_cases here : place = socket
    · subst here
      simp only [Deployment.setLink, Function.update_self] at stands
      cases stands
      obtain ⟨_, _, owner⟩ := atEnd
      rw [same, owner] at owned
      exact absurd owned.symm own
    · simp only [Deployment.setLink, Function.update_of_ne here] at stands
      exact ⟨sockets, stands, owned⟩

/-! ## The steps of a client -/

theorem linked_quiet
    {action : ClientAction} (linked : deployment.Linked)
    (quietAction : action.IsQuiet)
    (stepped : Client.step sha256 (deployment.clients id) action =
      some client) :
    (deployment.setClient id client).Linked := by
  have conforms := Client.step_conforms (linked.conforms id) stepped
  by_cases signal : action = .sigint
  · subst signal
    cases Client.steps_of_step stepped with
    | sigint runs =>
        have same : (deployment.clients id).handleSigint.connected =
              (deployment.clients id).connected ∧
            (deployment.clients id).handleSigint.userId =
              (deployment.clients id).userId ∧
            (deployment.clients id).handleSigint.point =
              (deployment.clients id).point ∧
            ((deployment.clients id).handleSigint.sigintReceived = false →
              (deployment.clients id).sigintReceived = false) := by
          unfold Client.handleSigint
          split
          · exact ⟨rfl, rfl, rfl, fun quiet => quiet⟩
          · exact ⟨rfl, rfl, rfl, nofun⟩
        obtain ⟨sameConnected, sameUser, samePoint, before⟩ := same
        have kept : (deployment.clients id).handleSigint.connected = true →
            (deployment.clients id).connected = true := by
          rw [sameConnected]
          exact fun connected => connected
        apply ((linked.but id).setClient conforms kept).linked
        · rw [setClient_self]
          intro connected quiet
          rw [sameConnected] at connected
          obtain ⟨atRest, inCall⟩ :=
            linked.clients id connected (before quiet)
          constructor
          case atRest =>
            intro outside
            rw [setClient_self] at outside
            simp only [Client.Awaits, samePoint] at outside
            obtain ⟨inbox, ends⟩ := atRest outside
            refine ⟨inbox, ?_⟩
            intro socket link atEnd
            rw [setClient_self, sameUser]
            exact ends socket link (atEnd_setClient atEnd)
          case inCall =>
            intro function awaits
            rw [setClient_self, Client.Awaits, samePoint] at awaits
            rcases inCall function awaits with
              ⟨inbox, ends⟩ | ⟨response, after, inbox, replies, ends⟩
            · refine .inl ⟨inbox, ?_⟩
              intro socket link atEnd
              rw [setClient_self, sameUser]
              exact ends socket link (atEnd_setClient atEnd)
            · refine .inr ⟨response, after, inbox, ?_, ?_⟩
              · rw [setClient_self, sameUser]
                exact replies
              · intro socket link atEnd
                exact ends socket link (atEnd_setClient atEnd)
  · have quiet := Client.quiet_of_step quietAction signal stepped
    apply ((linked.but id).setClient conforms quiet.connected).linked
    rw [setClient_self]
    intro connected unsignaled
    have before : (deployment.clients id).sigintReceived = false := by
      rw [← Bool.not_eq_true]
      intro signaled
      have after := quiet.signaled signaled
      rw [unsignaled] at after
      cases after
    obtain ⟨inbox, ends⟩ := (linked.clients id (quiet.connected connected)
      before).atRest quiet.before
    constructor
    case atRest =>
      intro _
      refine ⟨inbox, ?_⟩
      intro socket link atEnd
      rw [setClient_self, quiet.userId]
      exact ends socket link (atEnd_setClient atEnd)
    case inCall =>
      intro function awaits
      rw [setClient_self] at awaits
      exact absurd awaits (quiet.outside function)

theorem linked_accept
    {accepted : Bool} {server : Server} (linked : deployment.Linked)
    (stepped : Client.step sha256 (deployment.clients id)
      (.connect accepted) = some client)
    (connected : client.connected = true)
    (accepts : Server.step qsort deployment.server (.accept socket) =
      some server) :
    (deployment.accept id socket client server).Linked := by
  have conforms := Client.step_conforms (linked.conforms id) stepped
  have unconnected : (deployment.clients id).connected = false := by
    obtain ⟨phase, _, fits⟩ := linked.conforms id
    cases Client.steps_of_step stepped with
    | connect accepted here =>
        simp only [Client.Fits, here] at fits
        exact fits.1
  obtain ⟨outside, fresh⟩ := Client.step_connect unconnected stepped
  obtain ⟨nobody, _⟩ := fresh connected
  have others : ∀ {other}, other ≠ socket →
      server.handlers other = deployment.server.handlers other :=
    fun apart => Server.step_other accepts apart
  have words := Server.step_wordlist accepts
  have received : server.handlers socket = some ⟨.empty, .receiving, true⟩ := by
    obtain ⟨_, cases⟩ := Server.step_iff.mp accepts
    cases cases with
    | accept socket free => exact Server.setHandler_self
  constructor
  case conforms =>
    intro other
    simp only [accept]
    by_cases own : other = id
    · subst own
      rw [Function.update_self]
      exact conforms
    · rw [Function.update_of_ne own]
      exact linked.conforms other
  case sockets =>
    intro other
    simp only [accept]
    by_cases own : other = id
    · subst own
      simp [connected]
    · rw [Function.update_of_ne own, Function.update_of_ne own]
      exact linked.sockets other
  case handlers =>
    intro place link found
    simp only [accept] at found
    by_cases own : place = socket
    · subst own
      rw [Function.update_self] at found
      cases found
      exact ⟨_, received, rfl, .inl rfl⟩
    · rw [Function.update_of_ne own] at found
      exact (linked.handlers place link found).congr (others own) words
  case clients =>
    intro other otherConnected quiet
    by_cases own : other = id
    · subst own
      constructor
      case atRest =>
        intro _
        refine ⟨Function.update_self _ _ _, ?_⟩
        rintro place link ⟨found, linkedThere, _⟩
        simp only [accept, Function.update_self] at found
        cases found
        simp only [accept, Function.update_self] at linkedThere ⊢
        cases linkedThere
        exact ⟨rfl, nobody.symm⟩
      case inCall =>
        intro function awaits
        simp only [accept, Function.update_self] at awaits
        exact absurd awaits (outside function)
    · simp only [accept, Function.update_of_ne own] at otherConnected quiet
      apply (linked.clients other otherConnected quiet).congr
        (Function.update_of_ne own _ _) (Function.update_of_ne own _ _) words
      rintro place link ⟨found, linkedThere, owned⟩
      simp only [accept, Function.update_of_ne own] at found
      simp only [accept] at linkedThere
      by_cases here : place = socket
      · subst here
        rw [Function.update_self] at linkedThere
        cases linkedThere
        exact absurd owned.symm own
      · rw [Function.update_of_ne here] at linkedThere
        exact ⟨found, linkedThere, owned⟩

/-! ### Requests -/

theorem send_of_awaits
    {function : RequestFunction} (awaits : client.Awaits function)
    (atEnd : deployment.AtEnd id socket link) :
    deployment.send id client =
      deployment.setLink socket
        { link with
          games := client.games.length
          traffic := .requested function } := by
  rw [Client.Awaits] at awaits
  simp only [send, awaits, connection_eq_some_iff.mpr atEnd]

theorem send_of_unconnected
    (nowhere : ∀ socket link, ¬deployment.AtEnd id socket link) :
    deployment.send id client = deployment := by
  unfold send
  split
  · rename_i found
    exact absurd (connection_eq_some_iff.mp found) (nowhere _ _)
  · rfl

theorem send_of_outside
    (outside : ∀ function, ¬client.Awaits function) :
    deployment.send id client = deployment := by
  unfold send
  split
  · rename_i awaits _
    exact absurd awaits (outside _)
  · rfl

/-- The client has asked, and what is at its end knows it. -/
theorem clientFits_of_asked
    {function : RequestFunction}
    (awaits : (deployment.clients id).Awaits function)
    (inbox : deployment.inboxes id = none)
    (requested : ∀ socket link, deployment.AtEnd id socket link →
      link.user = (deployment.clients id).userId ∧
        link.traffic = .requested function) :
    deployment.ClientFits id where
  atRest := fun outside => absurd awaits (outside function)
  inCall := by
    intro other alsoAwaits
    have same : function = other := by
      rw [Client.Awaits, awaits] at alsoAwaits
      cases alsoAwaits
      rfl
    subst same
    refine .inl ⟨inbox, ?_⟩
    intro socket link atEnd
    obtain ⟨sameUser, underWay⟩ := requested socket link atEnd
    exact ⟨sameUser, .inl underWay⟩

theorem linked_sent
    {function : RequestFunction} (linked : deployment.Linked)
    (here : (deployment.clients id).point = .calling function)
    (connected : (deployment.clients id).connected = true)
    (quiet : (deployment.clients id).sigintReceived = false)
    (conforms : (((deployment.clients id).record (.sent function)).goto
      (.awaiting function)).Conforms) :
    let asking := ((deployment.clients id).record (.sent function)).goto
      (.awaiting function)
    ((deployment.setClient id asking).send id asking).Linked := by
  intro asking
  obtain ⟨inbox, ends⟩ := (linked.clients id connected quiet).atRest
    (by simp [Client.Awaits, here])
  have changed : (deployment.setClient id asking).LinkedBut id :=
    (linked.but id).setClient conforms fun _ => connected
  have guest : function.asksToEnter = true →
      (deployment.clients id).userId = .empty := by
    intro enters
    obtain ⟨phase, _, fits⟩ := linked.conforms id
    simp only [Client.Fits, here, enters, ↓reduceIte] at fits
    exact fits.1
  by_cases somewhere :
      ∃ socket link, (deployment.setClient id asking).AtEnd id socket link
  · obtain ⟨socket, link, atEnd⟩ := somewhere
    obtain ⟨idle, sameUser⟩ := ends socket link (atEnd_setClient atEnd)
    have waits : (deployment.setClient id asking).Waits socket link.user := by
      have fits := changed.handlers socket link atEnd.2.1
      simpa only [HandlerFits, idle] using fits
    have awaits : asking.Awaits function := rfl
    rw [send_of_awaits awaits atEnd]
    let asked : Link :=
      { link with
        games := asking.games.length
        traffic := .requested function }
    have fits : (deployment.setClient id asking).HandlerFits socket asked := by
      refine ⟨waits, ?_⟩
      intro enters
      exact sameUser.trans (guest enters)
    have asks : ((deployment.setClient id asking).setLink socket
        asked).LinkedBut id :=
      changed.setLink atEnd rfl fits
    apply asks.linked
    · intro _ _
      apply clientFits_of_asked
      · rw [setLink, setClient_self]
        exact awaits
      · exact inbox
      · rintro place found ⟨sockets, stands, _⟩
        have samePlace : place = socket := by
          have first := atEnd.1
          rw [setLink] at sockets
          rw [first] at sockets
          exact (Option.some.inj sockets).symm
        subst samePlace
        simp only [setLink, Function.update_self] at stands
        cases stands
        rw [setLink, setClient_self]
        exact ⟨sameUser, rfl⟩
  · have nowhere : ∀ socket link,
        ¬(deployment.setClient id asking).AtEnd id socket link := by
      intro socket link atEnd
      exact somewhere ⟨socket, link, atEnd⟩
    rw [send_of_unconnected nowhere]
    apply changed.linked
    intro _ _
    apply clientFits_of_asked
    · rw [setClient_self]
      rfl
    · exact inbox
    · intro socket link atEnd
      exact absurd atEnd (nowhere socket link)

/-- A request function begins, or comes back without having sent anything. -/
theorem linked_call
    {call : RequestCall} {load : LoadMemory} (linked : deployment.Linked)
    (stepped : Client.step sha256 (deployment.clients id) (.call call load) =
      some client) :
    ((deployment.setClient id client).send id client).Linked := by
  have conforms := Client.step_conforms (linked.conforms id) stepped
  obtain ⟨here, ⟨connected, quiet, rfl⟩ | ⟨unsent, rests⟩⟩ :=
    Client.step_call stepped
  · exact linked_sent linked here connected quiet conforms
  · rw [send_of_outside rests.outside]
    apply ((linked.but id).setClient conforms rests.connected).linked
    rw [setClient_self]
    intro connected quiet
    rcases unsent with unconnected | signaled
    · rw [rests.connected connected] at unconnected
      cases unconnected
    · rw [rests.signaled signaled] at quiet
      cases quiet

/-! ### Responses -/

theorem succeeded_of_readStatus
    {memory : List UInt8} {status : StatusResponse}
    (read : readStatus memory = some status) :
    Client.succeeded 0 memory = status.success := by
  unfold readStatus at read
  split at read
  · rename_i success message value _
    cases read
    simp [Client.succeeded, value]
  · cases read

theorem succeeded_of_login
    {memory : List UInt8} {status : StatusResponse}
    (read : readResponse msgTypeLoginResp memory = some (.login status)) :
    Client.succeeded 0 memory = status.success := by
  have mapped : (readStatus memory).map Response.login =
      some (.login status) := read
  obtain ⟨found, readFound, same⟩ := Option.map_eq_some_iff.mp mapped
  cases same
  exact succeeded_of_readStatus readFound

theorem succeeded_of_logout
    {memory : List UInt8} {status : StatusResponse}
    (read : readResponse msgTypeLogoutResp memory = some (.logout status)) :
    Client.succeeded 0 memory = status.success := by
  have mapped : (readStatus memory).map Response.logout =
      some (.logout status) := read
  obtain ⟨found, readFound, same⟩ := Option.map_eq_some_iff.mp mapped
  cases same
  exact succeeded_of_readStatus readFound

/-- The user the client takes over is the one the handler acts for. -/
theorem userAfter_of_replies
    {wordlist : WordListResponse} {function : RequestFunction}
    {response : Response} {user after : CharArray maxIdLen}
    {memory : List UInt8}
    (replies : RepliesTo wordlist user function response after)
    (read : readResponse function.expectedRespType memory = some response)
    (guest : function.asksToEnter = true → user = .empty)
    (member : function.asksToEnter = false → user ≠ .empty) :
    Client.userAfter user (Client.succeeded 0 memory) function = after := by
  cases replies with
  | registered => rfl
  | loggedIn success =>
      rw [succeeded_of_login read, success]
      rfl
  | notLoggedIn failure =>
      rw [succeeded_of_login read, failure]
      exact guest rfl
  | submitted => rfl
  | leaderboard => rfl
  | wordlist => rfl
  | loggedOut success =>
      rw [succeeded_of_logout read, success (member rfl)]
      rfl

/-- Behind the response the client rests, logged in as the handler's user. -/
theorem clientFits_of_answered
    {function : RequestFunction} {response : Response} {memory : List UInt8}
    (linked : deployment.Linked)
    (awaits : (deployment.clients id).Awaits function)
    (connected : (deployment.clients id).connected = true)
    (quiet : (deployment.clients id).sigintReceived = false)
    (arrived : deployment.inboxes id = some response)
    (read : readResponse function.expectedRespType memory = some response)
    (load : LoadMemory) :
    ((deployment.takeInbox id).setClient id
      ((deployment.clients id).resume load 0 memory function)).ClientFits
        id := by
  obtain ⟨sameUser, _, _, outside⟩ := @Client.resume_quiet
    (deployment.clients id) function load 0 memory quiet
  have asks : ∃ phase, (deployment.clients id).Asks function phase := by
    obtain ⟨phase, _, fits⟩ := linked.conforms id
    rw [Client.Awaits] at awaits
    simp only [Client.Fits, awaits] at fits
    exact ⟨phase, fits⟩
  have guest : function.asksToEnter = true →
      (deployment.clients id).userId = .empty := by
    intro enters
    obtain ⟨_, _, place⟩ := asks
    rw [if_pos enters] at place
    exact place.1
  have member : function.asksToEnter = false →
      (deployment.clients id).userId ≠ .empty := by
    intro serves
    obtain ⟨_, _, place⟩ := asks
    rw [if_neg (by simp [serves])] at place
    exact place.1
  rcases (linked.clients id connected quiet).inCall function awaits with
    ⟨unanswered, _⟩ | ⟨response', after, inbox, replies, ends⟩
  · rw [arrived] at unanswered
    cases unanswered
  · rw [arrived] at inbox
    cases inbox
    have taken := userAfter_of_replies replies read guest member
    constructor
    case atRest =>
      intro _
      refine ⟨Function.update_self _ _ _, ?_⟩
      intro socket link atEnd
      obtain ⟨idle, user⟩ := ends socket link (atEnd_setClient atEnd)
      rw [setClient_self, sameUser, taken]
      exact ⟨idle, user⟩
    case inCall =>
      intro other awaitsOther
      rw [setClient_self] at awaitsOther
      exact absurd awaitsOther (outside other)

theorem linked_return
    {outcome : CallOutcome} {load : LoadMemory} (linked : deployment.Linked)
    (stepped : Client.step sha256 (deployment.clients id)
      (.return outcome load) = some client)
    (delivers : deployment.Delivers id outcome next) :
    (next.setClient id client).Linked := by
  have conforms := Client.step_conforms (linked.conforms id) stepped
  cases delivers with
  | lost =>
      obtain ⟨rests, unconnected⟩ := Client.step_disconnects stepped
      apply ((linked.but id).setClient conforms rests.connected).linked
      rw [setClient_self]
      intro connected _
      rw [unconnected] at connected
      cases connected
  | interrupted failed signaled =>
      obtain ⟨function, awaits, rfl⟩ := Client.step_returns stepped
      obtain ⟨stillSignaled, kept⟩ := @Client.resume_signaled
        (deployment.clients id) function load _ _ signaled
      apply ((linked.but id).setClient conforms kept).linked
      rw [setClient_self]
      intro _ quiet
      rw [stillSignaled] at quiet
      cases quiet
  | @answered function response memory awaits arrived sized read =>
      obtain ⟨function', alsoAwaits, rfl⟩ := Client.step_returns stepped
      have same : function = function' := by
        rw [Client.Awaits, alsoAwaits] at awaits
        cases awaits
        rfl
      subst same
      have kept : ((deployment.clients id).resume load 0 memory
          function).connected = true →
            (deployment.clients id).connected = true := by
        cases quiet : (deployment.clients id).sigintReceived with
        | true => exact (Client.resume_signaled load 0 memory quiet).2
        | false =>
            rw [(Client.resume_quiet load 0 memory quiet).2.1]
            exact fun connected => connected
      have changed := (linked.but id).takeInbox.setClient conforms kept
      apply changed.linked
      rw [setClient_self]
      intro connected unsignaled
      have quiet : (deployment.clients id).sigintReceived = false := by
        rw [← Bool.not_eq_true]
        intro signaled
        have stillSignaled :=
          (@Client.resume_signaled (deployment.clients id) function load 0
            memory signaled).1
        rw [unsignaled] at stillSignaled
        cases stillSignaled
      exact clientFits_of_answered linked alsoAwaits (kept connected) quiet
        arrived read load

/-! ## The steps of the server -/

section Server

variable {server : Server} {action : Action} {user : CharArray maxIdLen}

/-- A waiting handler takes a request, stops to wait, or is gone. -/
theorem waits_step
    (waits : deployment.Waits socket user)
    (stepped : Server.step qsort deployment.server action = some server)
    (own : action.socket = socket) :
    { deployment with server := server }.Waits socket user ∨
      (∃ request disk, action = .receive socket request disk) ∨
        action = .cleanUp socket := by
  obtain ⟨handler, live, acts, idle⟩ := waits
  have apart : ∀ {stage : Stage}, handler.stage = stage →
      stage ≠ .receiving → stage ≠ .leaving → False := by
    rintro stage rfl notReceiving notLeaving
    rcases idle with receiving | leaving
    · exact notReceiving receiving
    · exact notLeaving leaving
  obtain ⟨_, cases⟩ := Server.step_iff.mp stepped
  cases cases with
  | accept other free =>
      subst own
      rw [Action.socket, free] at live
      cases live
  | receive other request disk here stage =>
      subst own
      exact .inr (.inl ⟨request, disk, rfl⟩)
  | cleanUp other here stage =>
      subst own
      exact .inr (.inr rfl)
  | hangUp other here stage =>
      subst own
      rw [Action.socket, here] at live
      cases live
      exact .inl ⟨_, Server.setHandler_self, acts, .inr rfl⟩
  | peerCloses other here =>
      subst own
      rw [Action.socket, here] at live
      cases live
      exact .inl ⟨_, Server.setHandler_self, acts, idle⟩
  | verifyPassword other reads here stage =>
      subst own
      rw [Action.socket, here] at live
      cases live
      exact (apart stage (by simp) (by simp)).elim
  | addSession other here stage =>
      subst own
      rw [Action.socket, here] at live
      cases live
      exact (apart stage (by simp) (by simp)).elim
  | addUser other writes here stage =>
      subst own
      rw [Action.socket, here] at live
      cases live
      exact (apart stage (by simp) (by simp)).elim
  | sendHeader other sent here stage =>
      subst own
      rw [Action.socket, here] at live
      cases live
      exact (apart stage (by simp) (by simp)).elim
  | sendBody other sent here stage =>
      subst own
      rw [Action.socket, here] at live
      cases live
      exact (apart stage (by simp) (by simp)).elim

/-- Most steps of a handler leave its connection as it is. -/
theorem handlerFits_step
    (fits : deployment.HandlerFits socket link)
    (stepped : Server.step qsort deployment.server action = some server)
    (notReceive : ∀ request disk, action ≠ .receive socket request disk)
    (notCleanUp : action ≠ .cleanUp socket)
    (unanswered : ∀ function, ¬((∃ sent, action = .sendBody socket sent) ∧
      deployment.server.Responded server socket link.user function)) :
    { deployment with server := server }.HandlerFits socket link := by
  by_cases own : action.socket = socket
  · unfold HandlerFits at fits ⊢
    have stillWaits : deployment.Waits socket link.user →
        { deployment with server := server }.Waits socket link.user := by
      intro waits
      rcases waits_step waits stepped own with
        still | ⟨request, disk, received⟩ | cleaned
      · exact still
      · exact absurd received (notReceive request disk)
      · exact absurd cleaned notCleanUp
    split at fits
    · exact stillWaits fits
    · exact ⟨stillWaits fits.1, fits.2⟩
    · rename_i function _
      rcases Server.worksOn_step fits own stepped with
        still | answered | cleaned
      · exact still
      · exact absurd answered (unanswered function)
      · exact absurd cleaned notCleanUp
  · exact fits.congr (Server.step_other stepped (Ne.symm own))
      (Server.step_wordlist stepped)

theorem handlerFits_other
    (fits : deployment.HandlerFits socket link)
    (stepped : Server.step qsort deployment.server action = some server)
    (apart : socket ≠ action.socket) :
    { deployment with server := server }.HandlerFits socket link :=
  fits.congr (Server.step_other stepped apart) (Server.step_wordlist stepped)

/-- A step of a handler that leaves its connection as it is. -/
theorem linked_serves
    (linked : deployment.Linked)
    (stepped : Server.step qsort deployment.server action = some server)
    (fits : ∀ socket link, deployment.links socket = some link →
      { deployment with server := server }.HandlerFits socket link) :
    { deployment with server := server }.Linked where
  conforms := linked.conforms
  sockets := linked.sockets
  handlers := fits
  clients := by
    intro id connected quiet
    exact (linked.clients id connected quiet).congr rfl rfl
      (Server.step_wordlist stepped) (fun _ _ atEnd => atEnd)

theorem linked_cleanUp
    (linked : deployment.Linked)
    (stepped : Server.step qsort deployment.server (.cleanUp socket) =
      some server) :
    { deployment with
      server := server
      links := Function.update deployment.links socket none }.Linked where
  conforms := linked.conforms
  sockets := linked.sockets
  handlers := by
    intro place link found
    by_cases own : place = socket
    · subst own
      simp only [Function.update_self, reduceCtorEq] at found
    · simp only [Function.update_of_ne own] at found
      exact (linked.handlers place link found).congr
        (Server.step_other stepped own) (Server.step_wordlist stepped)
  clients := by
    intro id connected quiet
    refine (linked.clients id connected quiet).congr rfl rfl
      (Server.step_wordlist stepped) ?_
    rintro place link ⟨sockets, found, owned⟩
    by_cases own : place = socket
    · subst own
      simp only [Function.update_self, reduceCtorEq] at found
    · simp only [Function.update_of_ne own] at found
      exact ⟨sockets, found, owned⟩

/-- A request that is under way or handled is one its client waits for. -/
theorem asked_of_traffic
    {function : RequestFunction} (linked : deployment.Linked)
    (connected : (deployment.clients id).connected = true)
    (quiet : (deployment.clients id).sigintReceived = false)
    (atEnd : deployment.AtEnd id socket link)
    (traffic : link.traffic = .requested function ∨
      link.traffic = .handling function) :
    (deployment.clients id).Awaits function ∧
      deployment.inboxes id = none ∧
        link.user = (deployment.clients id).userId := by
  have busy : link.traffic ≠ .idle := by
    rcases traffic with requested | handling
    · rw [requested]
      nofun
    · rw [handling]
      nofun
  have fits := linked.clients id connected quiet
  by_cases somewhere : ∃ function, (deployment.clients id).Awaits function
  · obtain ⟨asked, awaits⟩ := somewhere
    rcases fits.inCall asked awaits with
      ⟨inbox, ends⟩ | ⟨response, after, inbox, replies, ends⟩
    · obtain ⟨sameUser, under⟩ := ends socket link atEnd
      have same : asked = function := by
        rcases under with requested | handling
        · rw [requested] at traffic
          rcases traffic with same | other
          · cases same
            rfl
          · cases other
        · rw [handling] at traffic
          rcases traffic with other | same
          · cases other
          · cases same
            rfl
      subst same
      exact ⟨awaits, inbox, sameUser⟩
    · exact absurd (ends socket link atEnd).1 busy
  · obtain ⟨_, ends⟩ := fits.atRest (not_exists.mp somewhere)
    exact absurd (ends socket link atEnd).1 busy

theorem linked_receive
    {function : RequestFunction} {disk : DiskCalls}
    (linked : deployment.Linked)
    (found : deployment.links socket = some link)
    (underWay : link.traffic = .requested function)
    (stepped : Server.step qsort deployment.server
      (.receive socket function.request disk) = some server) :
    ({ deployment with server := server }.setLink socket
      { link with traffic := .handling function }).Linked := by
  obtain ⟨⟨handler, live, acts, _⟩, guest⟩ :
      deployment.Waits socket link.user ∧
        (function.asksToEnter = true → link.user = .empty) := by
    have fits := linked.handlers socket link found
    simpa only [HandlerFits, underWay] using fits
  have works : server.WorksOn socket link.user function := by
    obtain ⟨_, cases⟩ := Server.step_iff.mp stepped
    cases cases with
    | receive other request' disk' here stage =>
        rw [here] at live
        cases live
        rw [← acts] at guest ⊢
        exact Server.worksOn_receive guest
  have words := Server.step_wordlist stepped
  let handling : Link := { link with traffic := .handling function }
  have ended : ∀ {id place found'},
      ({ deployment with server := server }.setLink socket
        handling).AtEnd id place found' →
        place = socket ∧ found' = handling ∧ link.client = id ∨
          place ≠ socket ∧ deployment.AtEnd id place found' := by
    rintro id place found' ⟨sockets, stands, owned⟩
    by_cases own : place = socket
    · subst own
      simp only [setLink, Function.update_self] at stands
      cases stands
      exact .inl ⟨rfl, rfl, owned⟩
    · simp only [setLink, Function.update_of_ne own] at stands
      exact .inr ⟨own, sockets, stands, owned⟩
  constructor
  case conforms => exact linked.conforms
  case sockets => exact linked.sockets
  case handlers =>
    intro place found' stands
    by_cases own : place = socket
    · subst own
      simp only [setLink, Function.update_self] at stands
      cases stands
      exact works
    · simp only [setLink, Function.update_of_ne own] at stands
      exact (linked.handlers place found' stands).congr
        (Server.step_other stepped own) words
  case clients =>
    intro id connected quiet
    by_cases mine : deployment.AtEnd id socket link
    · obtain ⟨awaits, inbox, sameUser⟩ :=
        asked_of_traffic linked connected quiet mine (.inl underWay)
      constructor
      case atRest => exact fun outside => absurd awaits (outside _)
      case inCall =>
        intro other alsoAwaits
        have same : other = function := by
          have first := alsoAwaits
          simp only [Client.Awaits, setLink] at first
          rw [Client.Awaits, first] at awaits
          cases awaits
          rfl
        subst same
        refine .inl ⟨inbox, ?_⟩
        intro place found' atEnd
        rcases ended atEnd with ⟨_, rfl, _⟩ | ⟨apart, before⟩
        · exact ⟨sameUser, .inr rfl⟩
        · have samePlace := before.1
          rw [mine.1] at samePlace
          exact absurd (Option.some.inj samePlace).symm apart
    · refine (linked.clients id connected quiet).congr rfl rfl words ?_
      intro place found' atEnd
      rcases ended atEnd with ⟨rfl, rfl, owned⟩ | ⟨_, before⟩
      · exact absurd ⟨atEnd.1, found, owned⟩ mine
      · exact before

/-- Nothing has been answered by a handler that is not sending. -/
theorem serve_of_silent
    (silent : ∀ before response peerOpen,
      deployment.server.handlers socket ≠
        some ⟨before, .sendingBody response, peerOpen⟩) :
    serve deployment next socket = next := by
  unfold serve
  split
  · rename_i sending _ _
    exact absurd sending (silent _ _ _)
  · rfl

theorem serve_of_works
    {function : RequestFunction}
    (works : next.server.WorksOn socket user function) :
    serve deployment next socket = next := by
  unfold serve
  split
  · rename_i received _
    obtain ⟨handler, live, works⟩ := works
    rw [received] at live
    cases live
    cases works
  · rfl

/-- The response is in the inbox of the client that waits for it. -/
theorem linked_respond
    {function : RequestFunction} {response : Response}
    {after : CharArray maxIdLen} {peerOpen sent : Bool}
    (linked : deployment.Linked)
    (stepped : Server.step qsort deployment.server (.sendBody socket sent) =
      some server)
    (found : deployment.links socket = some link)
    (underWay : link.traffic = .handling function)
    (replies : RepliesTo deployment.server.wordlist link.user function
      response after)
    (received : server.handlers socket =
      some ⟨after, .receiving, peerOpen⟩) :
    ({ deployment with server := server }.respond socket link after
      response).Linked := by
  have words := Server.step_wordlist stepped
  have ended : ∀ {id place found'},
      ({ deployment with server := server }.respond socket link after
        response).AtEnd id place found' →
        place = socket ∧ found' = { link with user := after, traffic := .idle } ∧
            link.client = id ∨
          place ≠ socket ∧ deployment.AtEnd id place found' := by
    rintro id place found' ⟨sockets, stands, owned⟩
    by_cases own : place = socket
    · subst own
      simp only [respond, setLink, Function.update_self] at stands
      cases stands
      exact .inl ⟨rfl, rfl, owned⟩
    · simp only [respond, setLink, Function.update_of_ne own] at stands
      exact .inr ⟨own, sockets, stands, owned⟩
  constructor
  case conforms => exact linked.conforms
  case sockets => exact linked.sockets
  case handlers =>
    intro place found' stands
    by_cases own : place = socket
    · subst own
      simp only [respond, setLink, Function.update_self] at stands
      cases stands
      exact ⟨_, received, rfl, .inl rfl⟩
    · simp only [respond, setLink, Function.update_of_ne own] at stands
      exact (linked.handlers place found' stands).congr
        (Server.step_other stepped own) words
  case clients =>
    intro id connected quiet
    by_cases mine : deployment.AtEnd id socket link
    · obtain ⟨awaits, _, sameUser⟩ :=
        asked_of_traffic linked connected quiet mine (.inr underWay)
      obtain ⟨sockets, _, rfl⟩ := mine
      constructor
      case atRest => exact fun outside => absurd awaits (outside _)
      case inCall =>
        intro other alsoAwaits
        have same : other = function := by
          have first := alsoAwaits
          simp only [Client.Awaits, respond, setLink] at first
          rw [Client.Awaits, first] at awaits
          cases awaits
          rfl
        subst same
        refine .inr ⟨response, after, ?_, ?_, ?_⟩
        · simp only [respond]
          rw [if_pos sockets, Function.update_self]
        · have sameWords : server.wordlist = deployment.server.wordlist :=
            words
          rw [sameUser] at replies
          simp only [respond, setLink, sameWords]
          exact replies
        · intro place found' atEnd
          rcases ended atEnd with ⟨_, rfl, _⟩ | ⟨apart, before⟩
          · exact ⟨rfl, rfl⟩
          · have samePlace := before.1
            rw [sockets] at samePlace
            exact absurd (Option.some.inj samePlace).symm apart
    · refine (linked.clients id connected quiet).congr rfl ?_ words ?_
      · simp only [respond]
        split
        · rename_i sockets
          apply Function.update_of_ne
          rintro rfl
          exact mine ⟨sockets, found, rfl⟩
        · rfl
      · intro place found' atEnd
        rcases ended atEnd with ⟨rfl, rfl, owned⟩ | ⟨_, before⟩
        · exact absurd ⟨atEnd.1, found, owned⟩ mine
        · exact before

theorem linked_sendBody
    {sent : Bool} (linked : deployment.Linked)
    (stepped : Server.step qsort deployment.server (.sendBody socket sent) =
      some server) :
    (serve deployment { deployment with server := server } socket).Linked := by
  have others : ∀ place link, place ≠ socket →
      deployment.links place = some link →
        { deployment with server := server }.HandlerFits place link :=
    fun place link apart found =>
      handlerFits_other (linked.handlers place link found) stepped apart
  have unchanged : (∀ link, deployment.links socket = some link →
      { deployment with server := server }.HandlerFits socket link) →
        { deployment with server := server }.Linked := by
    intro own
    apply linked_serves linked stepped
    intro place link found
    by_cases here : place = socket
    · subst here
      exact own link found
    · exact others place link here found
  cases found : deployment.links socket with
  | none =>
      have silent : serve deployment { deployment with server := server }
          socket = { deployment with server := server } := by
        unfold serve
        split
        · rename_i noLink
          rw [found] at noLink
          cases noLink
        · rfl
      rw [silent]
      apply unchanged
      intro link found'
      rw [found] at found'
      cases found'
  | some link =>
      have fits := linked.handlers socket link found
      have waiting : deployment.Waits socket link.user →
          (serve deployment { deployment with server := server }
            socket).Linked := by
        rintro ⟨handler, live, _, idle⟩
        have silent : ∀ before response peerOpen,
            deployment.server.handlers socket ≠
              some ⟨before, .sendingBody response, peerOpen⟩ := by
          intro before response peerOpen sending
          rw [live] at sending
          cases sending
          rcases idle with impossible | impossible
          · cases impossible
          · cases impossible
        rw [serve_of_silent silent]
        apply unchanged
        intro link' found'
        rw [found] at found'
        cases found'
        apply handlerFits_step fits stepped (by simp) (by simp)
        rintro function ⟨_, response, before, _, peerOpen, _, sending, _⟩
        exact silent before response peerOpen sending
      cases underWay : link.traffic with
      | idle =>
          simp only [HandlerFits, underWay] at fits
          exact waiting fits
      | requested function =>
          simp only [HandlerFits, underWay] at fits
          exact waiting fits.1
      | handling function =>
          have works : deployment.server.WorksOn socket link.user function := by
            simpa only [HandlerFits, underWay] using fits
          rcases Server.worksOn_step works rfl stepped with
            still | ⟨_, response, before, after, peerOpen, replies, sending,
              received⟩ | cleaned
          · have same : serve deployment { deployment with server := server }
                socket = { deployment with server := server } :=
              serve_of_works still
            rw [same]
            apply unchanged
            intro link' found'
            rw [found] at found'
            cases found'
            simp only [HandlerFits, underWay]
            exact still
          · have answered : serve deployment
                { deployment with server := server } socket =
                  { deployment with server := server }.respond socket link
                    after response := by
              simp only [serve, sending, received, found]
            rw [answered]
            exact linked_respond linked stepped found underWay replies received
          · cases cleaned

theorem linked_inner
    (linked : deployment.Linked) (inner : action.IsInner)
    (stepped : Server.step qsort deployment.server action = some server) :
    { deployment with server := server }.Linked := by
  apply linked_serves linked stepped
  intro socket link found
  apply handlerFits_step (linked.handlers socket link found) stepped
  · rintro request disk rfl
    exact inner
  · rintro rfl
    exact inner
  · rintro function ⟨⟨sent, rfl⟩, _⟩
    exact inner

end Server

/-! ## Whole runs -/

theorem linked_refused
    {accepted : Bool} (linked : deployment.Linked)
    (stepped : Client.step sha256 (deployment.clients id)
      (.connect accepted) = some client)
    (unconnected : ¬client.connected = true) :
    (deployment.setClient id client).Linked := by
  have conforms := Client.step_conforms (linked.conforms id) stepped
  apply ((linked.but id).setClient conforms ?_).linked
  · rw [setClient_self]
    exact fun connected => absurd connected unconnected
  · exact fun connected => absurd connected unconnected

theorem step_linked
    {action : DeploymentAction} (linked : deployment.Linked)
    (stepped : step qsort sha256 deployment action = some next) :
    next.Linked := by
  cases steps_of_step stepped with
  | accept id socket accepted taken connected accepts =>
      exact linked_accept linked taken connected accepts
  | refused id socket accepted taken unconnected =>
      exact linked_refused linked taken unconnected
  | call id socket call load taken => exact linked_call linked taken
  | «return» id socket outcome load taken delivers =>
      exact linked_return linked taken delivers
  | quiet id socket action quiet taken =>
      exact linked_quiet linked quiet taken
  | receive socket disk found underWay taken =>
      exact linked_receive linked found underWay taken
  | sendBody socket sent taken => exact linked_sendBody linked taken
  | cleanUp socket taken => exact linked_cleanUp linked taken
  | inner action inner taken => exact linked_inner linked inner taken

theorem linked_start
    (users scores : DataFile) (wordlist : WordListResponse) :
    (start users scores wordlist).Linked where
  conforms := fun _ => Client.conforms_start
  sockets := by
    intro id
    simp [start, Client.start]
  handlers := by
    intro socket link found
    cases found
  clients := by
    intro id connected
    cases connected

theorem linked_of_run
    {users scores : DataFile} {wordlist : WordListResponse}
    {actions : List DeploymentAction}
    (ran : (step qsort sha256).run (start users scores wordlist) actions =
      some deployment) :
    deployment.Linked :=
  Machine.run_preserves Linked
    (fun _ _ _ linked stepped => step_linked linked stepped)
    (linked_start users scores wordlist) ran

end Deployment

end RainTyping
