import RainTyping.Client.ClientGames
import RainTyping.Client.ScoreAndLives
import RainTyping.Network.ServedUsers
import RainTyping.Server.ScoreLog

/-!
# Where the scores come from

`scores.txt` holds scores of games that clients have finished, each under the
user the client was logged in as, and no game's score is stored twice.  A game
has a ticket, its client and its number there.  The ticket is spent when the
score is submitted, and stays spent whatever becomes of the request.
-/

namespace RainTyping

namespace Server

variable {qsort : QSort} {server next : Server}

/-- Only a submission changes the scores file. -/
theorem scores_of_step
    {action : Action} (stepped : step qsort server action = some next) :
    next.scores = server.scores ∨
      ∃ socket score disk handler,
        action = .receive socket (.scoreSubmit (some score)) disk ∧
          server.handlers socket = some handler ∧
            handler.currentUser ≠ .empty ∧
              next.scores = (submitScoreImpl disk.writes server.scores
                handler.currentUser.toCString score).2 := by
  have kept : ∀ {socket handler sent later},
      (server.sendAll socket handler sent later).scores = server.scores := by
    intro socket handler sent later
    unfold sendAll
    split
    · rfl
    · split <;> rfl
  obtain ⟨_, cases⟩ := step_iff.mp stepped
  cases cases with
  | receive socket request disk live stage =>
      cases request with
      | register body =>
          simp only [receive, receiveRegister]
          split <;> exact .inl rfl
      | login body =>
          cases body with
          | none =>
              simp only [receive, receiveLogin]
              split <;> exact .inl rfl
          | some credentials =>
              simp only [receive, receiveLogin]
              split <;> exact .inl rfl
      | scoreSubmit body =>
          simp only [receive, receiveScoreSubmit]
          split
          · exact .inl rfl
          · rename_i named
            cases body with
            | none => exact .inl rfl
            | some score =>
                exact .inr ⟨socket, score, disk, _, rfl, live,
                  CharArray.strlen_pos_iff.mp (Nat.pos_of_ne_zero named), rfl⟩
      | logout =>
          simp only [receive, receiveLogout]
          split <;> exact .inl rfl
      | _ => exact .inl rfl
  | verifyPassword socket reads live stage =>
      rw [verifyPassword]
      split <;> exact .inl rfl
  | addSession socket live stage =>
      simp only [addSession]
      split <;> exact .inl rfl
  | sendHeader socket sent live stage => exact .inl kept
  | sendBody socket sent live stage => exact .inl kept
  | _ => exact .inl rfl

end Server

namespace Deployment

/-- A score in the file, and what the disk has answered to its append. -/
structure StoredScore where
  client : Nat
  /-- The number of the game among those of the client. -/
  game : Nat
  user : CharArray maxIdLen
  score : Int32
  writes : WriteCalls

/-- The game that the score is of. -/
def StoredScore.ticket (stored : StoredScore) : Nat × Nat :=
  (stored.client, stored.game)

/-- The append of the score. -/
def StoredScore.store (scores : DataFile) (stored : StoredScore) : DataFile :=
  (submitScoreImpl stored.writes scores stored.user.toCString stored.score).2

/-- The client has finished the game as this user and with this score. -/
def Played (deployment : Deployment) (ticket : Nat × Nat)
    (user : CharArray maxIdLen) (score : Int32) : Prop :=
  ∃ game, (deployment.clients ticket.1).games[ticket.2]? = some (user, game) ∧
    game.score = score ∧ 0 ≤ score

/-- The scores file is what these appends have made of it, each for a game of
its own. -/
structure Earned (deployment : Deployment) (initial : DataFile)
    (scores : List StoredScore) : Prop where
  tickets : (scores.map StoredScore.ticket).Nodup
  played : ∀ stored ∈ scores,
    deployment.Played stored.ticket stored.user stored.score
  content : deployment.server.scores = scores.foldl StoredScore.store initial

/-! ## Tickets -/

/-- The submission of the score is on its way over the connection. -/
def Pending (deployment : Deployment) (socket : Nat) (link : Link)
    (score : Int32) : Prop :=
  deployment.links socket = some link ∧
    link.traffic = .requested (.sendScoreSubmitRequest score)

/-- The game whose score was submitted last over the connection. -/
def ticketOf (link : Link) : Nat × Nat :=
  (link.client, link.games - 1)

/-- The score of this game will not be submitted any more. -/
def Spent (deployment : Deployment) (ticket : Nat × Nat) : Prop :=
  ticket.2 < (deployment.clients ticket.1).settled

/-- The scores in the file and on their way are of different games, and none
of these will be submitted again. -/
structure Ticketed (deployment : Deployment) (initial : DataFile)
    (scores : List StoredScore) : Prop
    extends Earned deployment initial scores where
  spent : ∀ stored ∈ scores, deployment.Spent stored.ticket
  pending : ∀ socket link score, deployment.Pending socket link score →
    deployment.Played (ticketOf link) link.user score ∧
      deployment.Spent (ticketOf link) ∧
        ticketOf link ∉ scores.map StoredScore.ticket
  apart : ∀ socket other link link' score score',
    deployment.Pending socket link score →
      deployment.Pending other link' score' →
        ticketOf link = ticketOf link' → socket = other

variable {qsort : QSort} {sha256 : Sha256} {deployment next : Deployment}
  {initial : DataFile} {scores : List StoredScore} {id socket : Nat}
  {link : Link} {client : Client} {ticket : Nat × Nat}
  {user : CharArray maxIdLen} {score : Int32}

theorem Played.mono
    (played : deployment.Played ticket user score)
    (games : ∀ id,
      (deployment.clients id).games <+: (next.clients id).games) :
    next.Played ticket user score := by
  obtain ⟨game, found, same⟩ := played
  obtain ⟨later, longer⟩ := games ticket.1
  refine ⟨game, ?_, same⟩
  obtain ⟨inside, _⟩ := List.getElem?_eq_some_iff.mp found
  rw [← longer, List.getElem?_append_left inside]
  exact found

/-- The steps that submit no score and store none. -/
theorem Ticketed.congr
    (ticketed : deployment.Ticketed initial scores)
    (content : next.server.scores = deployment.server.scores)
    (games : ∀ id, (deployment.clients id).games <+: (next.clients id).games)
    (settled : ∀ id,
      (deployment.clients id).settled ≤ (next.clients id).settled)
    (pending : ∀ socket link score, next.Pending socket link score →
      deployment.Pending socket link score) :
    next.Ticketed initial scores where
  tickets := ticketed.tickets
  played := fun stored member => (ticketed.played stored member).mono games
  content := content.trans ticketed.content
  spent := fun stored member =>
    Nat.lt_of_lt_of_le (ticketed.spent stored member) (settled _)
  pending := by
    intro socket link score underWay
    obtain ⟨played, spent, fresh⟩ :=
      ticketed.pending socket link score (pending socket link score underWay)
    exact ⟨played.mono games, Nat.lt_of_lt_of_le spent (settled _), fresh⟩
  apart := by
    intro socket other link link' score score' first second
    exact ticketed.apart socket other link link' score score'
      (pending socket link score first) (pending other link' score' second)

/-! ## The steps of a client -/

theorem games_setClient
    (longer : (deployment.clients id).games <+: client.games) (other : Nat) :
    (deployment.clients other).games <+:
      ((deployment.setClient id client).clients other).games := by
  by_cases own : other = id
  · subst own
    rw [setClient_self]
    exact longer
  · rw [setClient_other own]

theorem settled_setClient
    (later : (deployment.clients id).settled ≤ client.settled) (other : Nat) :
    (deployment.clients other).settled ≤
      ((deployment.setClient id client).clients other).settled := by
  by_cases own : other = id
  · subst own
    rw [setClient_self]
    exact later
  · rw [setClient_other own]

theorem ticketed_setClient
    {action : ClientAction}
    (ticketed : deployment.Ticketed initial scores)
    (stepped : Client.step sha256 (deployment.clients id) action =
      some client) :
    (deployment.setClient id client).Ticketed initial scores :=
  ticketed.congr rfl (games_setClient (Client.games_prefix stepped))
    (settled_setClient (Client.settled_mono stepped))
    (fun _ _ _ underWay => underWay)

theorem pending_setLink
    {link' : Link} {place : Nat}
    (underWay : (deployment.setLink socket link').Pending place link score) :
    place = socket ∧ link = link' ∨
      place ≠ socket ∧ deployment.Pending place link score := by
  obtain ⟨found, asked⟩ := underWay
  by_cases own : place = socket
  · subst own
    simp only [setLink, Function.update_self, Option.some.injEq] at found
    exact .inl ⟨rfl, found.symm⟩
  · simp only [setLink, Function.update_of_ne own] at found
    exact .inr ⟨own, found, asked⟩

theorem ticketed_setLink
    {link' : Link}
    (ticketed : deployment.Ticketed initial scores)
    (silent : ∀ score, link'.traffic ≠
      .requested (.sendScoreSubmitRequest score)) :
    (deployment.setLink socket link').Ticketed initial scores := by
  refine ticketed.congr rfl (fun _ => List.prefix_refl _)
    (fun _ => Nat.le_refl _) ?_
  intro place found score underWay
  rcases pending_setLink underWay with ⟨_, rfl⟩ | ⟨_, before⟩
  · exact absurd underWay.2 (silent score)
  · exact before

/-- A request on its way from a client that has nothing to submit. -/
theorem ticketed_send
    {function : RequestFunction}
    (ticketed : deployment.Ticketed initial scores)
    (awaits : client.Awaits function)
    (silent : ∀ score, function ≠ .sendScoreSubmitRequest score) :
    (deployment.send id client).Ticketed initial scores := by
  rw [Client.Awaits] at awaits
  unfold send
  rw [awaits]
  split
  · rename_i asked _ same _
    cases same
    apply ticketed_setLink ticketed
    intro score traffic
    cases traffic
    exact silent score rfl
  · exact ticketed

/-- A client submits the score of the game it has just finished. -/
theorem ticketed_submit
    (linked : deployment.Linked)
    (ticketed : deployment.Ticketed initial scores)
    (reports : (deployment.clients id).Reports score)
    (connected : (deployment.clients id).connected = true)
    (quiet : (deployment.clients id).sigintReceived = false) :
    let asking := ((deployment.clients id).record
      (.sent (.sendScoreSubmitRequest score))).goto
        (.awaiting (.sendScoreSubmitRequest score))
    (deployment.setClient id asking).Ticketed initial scores →
      ((deployment.setClient id asking).send id asking).Ticketed initial
        scores := by
  intro asking changed
  obtain ⟨earlier, game, last, sameScore, counts⟩ :=
    Client.last_game_of_reports (linked.conforms id) reports connected
  have sameGames : asking.games = (deployment.clients id).games := by
    simp [asking, Client.games, finishedGames, Client.record, Client.goto]
  have awaits : asking.Awaits (.sendScoreSubmitRequest score) := rfl
  have silent : ∀ score, ¬asking.Reports score := by
    simp [asking, Client.Reports, Client.goto]
  by_cases somewhere :
      ∃ socket link, (deployment.setClient id asking).AtEnd id socket link
  · obtain ⟨socket, link, atEnd⟩ := somewhere
    rw [send_of_awaits awaits atEnd]
    obtain ⟨_, ends⟩ := (linked.clients id connected quiet).atRest (by
      intro function alsoAwaits
      rw [Client.Awaits, reports] at alsoAwaits
      cases alsoAwaits)
    obtain ⟨_, sameUser⟩ := ends socket link (atEnd_setClient atEnd)
    have count : asking.games.length = earlier.length + 1 := by
      rw [sameGames, last, List.length_append, List.length_singleton]
    let asked : Link :=
      { link with
        games := asking.games.length
        traffic := .requested (.sendScoreSubmitRequest score) }
    have ticket : ticketOf asked = (id, earlier.length) := by
      simp only [ticketOf, asked, count, Nat.add_sub_cancel]
      rw [atEnd.2.2]
    -- Nothing before was about the last game.
    have before : ∀ {ticket}, deployment.Spent ticket →
        ticket ≠ (id, earlier.length) := by
      rintro ticket spent rfl
      rw [Spent, Client.settled_of_reports reports, ← sameGames, count] at spent
      simp at spent
    have fresh : ∀ {place found score'},
        deployment.Pending place found score' →
          ticketOf found ≠ ticketOf asked := by
      intro place found score' underWay
      rw [ticket]
      exact before (ticketed.pending place found score' underWay).2.1
    constructor
    case toEarned =>
      exact ⟨changed.tickets, changed.played, changed.content⟩
    case spent => exact changed.spent
    case pending =>
      intro place found score' underWay
      rcases pending_setLink underWay with ⟨rfl, rfl⟩ | ⟨_, earlierOne⟩
      · have sameScore' : score = score' := by
          have asks := underWay.2
          simp only [Traffic.requested.injEq,
            RequestFunction.sendScoreSubmitRequest.injEq] at asks
          exact asks
        subst sameScore'
        refine ⟨⟨game, ?_, sameScore, counts⟩, ?_, ?_⟩
        · rw [ticket]
          simp only [setLink, setClient_self]
          rw [sameGames, last, ← sameUser]
          simp
        · rw [Spent, ticket]
          simp only [setLink, setClient_self]
          rw [Client.settled_of_not_reports silent, count]
          exact Nat.lt_succ_self _
        · intro member
          obtain ⟨stored, isStored, same⟩ := List.mem_map.mp member
          exact before (ticketed.spent stored isStored) (same.trans ticket)
      · exact changed.pending place found score' earlierOne
    case apart =>
      intro place other found found' score' score'' first second same
      rcases pending_setLink first with ⟨rfl, rfl⟩ | ⟨_, firstBefore⟩
      · rcases pending_setLink second with ⟨rfl, rfl⟩ | ⟨_, secondBefore⟩
        · rfl
        · exact absurd same.symm (fresh secondBefore)
      · rcases pending_setLink second with ⟨rfl, rfl⟩ | ⟨_, secondBefore⟩
        · exact absurd same (fresh firstBefore)
        · exact ticketed.apart place other found found' score' score''
            firstBefore secondBefore same
  · have nowhere : ∀ socket link,
        ¬(deployment.setClient id asking).AtEnd id socket link := by
      intro socket link atEnd
      exact somewhere ⟨socket, link, atEnd⟩
    rw [send_of_unconnected nowhere]
    exact changed

theorem ticketed_call
    {call : RequestCall} {load : LoadMemory}
    (linked : deployment.Linked)
    (ticketed : deployment.Ticketed initial scores)
    (stepped : Client.step sha256 (deployment.clients id) (.call call load) =
      some client) :
    ((deployment.setClient id client).send id client).Ticketed initial
      scores := by
  have changed := ticketed_setClient ticketed stepped
  obtain ⟨here, ⟨connected, quiet, rfl⟩ | ⟨_, rests⟩⟩ :=
    Client.step_call stepped
  · by_cases submits : ∃ score,
        call.function = .sendScoreSubmitRequest score
    · obtain ⟨score, submits⟩ := submits
      rw [submits] at here changed ⊢
      exact ticketed_submit linked ticketed here connected quiet changed
    · exact ticketed_send changed rfl (not_exists.mp submits)
  · rw [send_of_outside rests.outside]
    exact changed

theorem ticketed_accept
    {server : Server} {accepted : Bool}
    (ticketed : deployment.Ticketed initial scores)
    (stepped : Client.step sha256 (deployment.clients id)
      (.connect accepted) = some client)
    (content : server.scores = deployment.server.scores) :
    (deployment.accept id socket client server).Ticketed initial scores := by
  refine ticketed.congr content
    (games_setClient (Client.games_prefix stepped))
    (settled_setClient (Client.settled_mono stepped)) ?_
  rintro place link score ⟨found, asked⟩
  by_cases own : place = socket
  · subst own
    simp only [accept, Function.update_self] at found
    cases found
    cases asked
  · simp only [accept, Function.update_of_ne own] at found
    exact ⟨found, asked⟩

theorem ticketed_return
    {between : Deployment} {outcome : CallOutcome} {load : LoadMemory}
    (ticketed : deployment.Ticketed initial scores)
    (stepped : Client.step sha256 (deployment.clients id)
      (.return outcome load) = some client)
    (delivers : deployment.Delivers id outcome between) :
    (between.setClient id client).Ticketed initial scores := by
  have sent := ticketed_setClient ticketed stepped
  cases delivers with
  | answered awaits arrived sized read =>
      exact ⟨⟨sent.tickets, sent.played, sent.content⟩, sent.spent,
        sent.pending, sent.apart⟩
  | interrupted failed signaled => exact sent
  | lost => exact sent

/-! ## The steps of the server -/

/-- A step that takes no submission off its way. -/
theorem ticketed_serves
    {server : Server} {links : Nat → Option Link}
    {inboxes : Nat → Option Response}
    (ticketed : deployment.Ticketed initial scores)
    (content : server.scores = deployment.server.scores)
    (pending : ∀ socket link score, links socket = some link →
      link.traffic = .requested (.sendScoreSubmitRequest score) →
        deployment.links socket = some link) :
    { deployment with
      server := server
      links := links
      inboxes := inboxes }.Ticketed initial scores := by
  refine ticketed.congr content (fun _ => List.prefix_refl _)
    (fun _ => Nat.le_refl _) ?_
  rintro socket link score ⟨found, asked⟩
  exact ⟨pending socket link score found asked, asked⟩

/-- The score of a submission is stored, and its ticket is spent for good. -/
theorem ticketed_stores
    {server : Server} {writes : WriteCalls} {function : RequestFunction}
    (ticketed : deployment.Ticketed initial scores)
    (underWay : deployment.Pending socket link score)
    (content : server.scores = (submitScoreImpl writes
      deployment.server.scores link.user.toCString score).2) :
    ({ deployment with server := server }.setLink socket
      { link with traffic := .handling function }).Ticketed initial
        (scores ++ [(⟨link.client, link.games - 1, link.user, score,
          writes⟩ : StoredScore)]) := by
  obtain ⟨played, spent, fresh⟩ :=
    ticketed.pending socket link score underWay
  have others : ∀ {place found score'},
      ({ deployment with server := server }.setLink socket
        { link with traffic := .handling function }).Pending place found
          score' → place ≠ socket ∧ deployment.Pending place found score' := by
    intro place found score' later
    rcases pending_setLink later with ⟨rfl, rfl⟩ | ⟨apart, before⟩
    · cases later.2
    · exact ⟨apart, before⟩
  constructor
  case toEarned =>
    constructor
    case tickets =>
      rw [List.map_append, List.nodup_append']
      refine ⟨ticketed.tickets, by simp, ?_⟩
      intro ticket member last
      rw [List.map_singleton, List.mem_singleton] at last
      subst last
      exact fresh member
    case played =>
      intro stored member
      rcases List.mem_append.mp member with earlier | last
      · exact ticketed.played stored earlier
      · rw [List.mem_singleton.mp last]
        exact played
    case content =>
      rw [List.foldl_append, ← ticketed.content]
      exact content
  case spent =>
    intro stored member
    rcases List.mem_append.mp member with earlier | last
    · exact ticketed.spent stored earlier
    · rw [List.mem_singleton.mp last]
      exact spent
  case pending =>
    intro place found score' later
    obtain ⟨apart, before⟩ := others later
    obtain ⟨alsoPlayed, alsoSpent, alsoFresh⟩ :=
      ticketed.pending place found score' before
    refine ⟨alsoPlayed, alsoSpent, ?_⟩
    rw [List.map_append, List.mem_append, not_or]
    refine ⟨alsoFresh, ?_⟩
    rw [List.map_singleton, List.mem_singleton]
    intro same
    exact apart (ticketed.apart place socket found link score' score before
      underWay same)
  case apart =>
    intro place other found found' score' score'' first second same
    exact ticketed.apart place other found found' score' score''
      (others first).2 (others second).2 same

theorem request_eq_scoreSubmit
    {function : RequestFunction}
    (same : function.request = .scoreSubmit (some score)) :
    function = .sendScoreSubmitRequest score := by
  cases function <;> cases same
  rfl

/-- The handler of the step has stored the score for its user. -/
structure StoredBy (deployment : Deployment) (action : DeploymentAction)
    (stored : StoredScore) : Prop where
  receives : ∃ socket request disk handler,
    action = .server (.receive socket request disk) ∧
      stored.writes = disk.writes ∧
        deployment.server.handlers socket = some handler ∧
          stored.user = handler.currentUser
  named : stored.user ≠ .empty

theorem ticketed_receive
    {server : Server} {function : RequestFunction} {disk : DiskCalls}
    (linked : deployment.Linked)
    (ticketed : deployment.Ticketed initial scores)
    (found : deployment.links socket = some link)
    (underWay : link.traffic = .requested function)
    (stepped : Server.step qsort deployment.server
      (.receive socket function.request disk) = some server) :
    let next := { deployment with server := server }.setLink socket
      { link with traffic := .handling function }
    next.Ticketed initial scores ∨
      ∃ stored, next.Ticketed initial (scores ++ [stored]) ∧
        deployment.StoredBy (.server (.receive socket function.request disk))
          stored := by
  rcases Server.scores_of_step stepped with
    kept | ⟨place, score, disk', handler, isSubmit, live, named, content⟩
  · refine .inl (ticketed.congr kept (fun _ => List.prefix_refl _)
      (fun _ => Nat.le_refl _) ?_)
    intro place found' score' later
    rcases pending_setLink later with ⟨rfl, rfl⟩ | ⟨_, before⟩
    · cases later.2
    · exact before
  · simp only [Action.receive.injEq] at isSubmit
    obtain ⟨rfl, submits, rfl⟩ := isSubmit
    have sameFunction := request_eq_scoreSubmit submits
    subst sameFunction
    have acts : handler.currentUser = link.user := by
      have fits := linked.handlers socket link found
      simp only [HandlerFits, underWay] at fits
      obtain ⟨⟨known, alsoLive, acts, _⟩, _⟩ := fits
      rw [live] at alsoLive
      cases alsoLive
      exact acts
    rw [acts] at content named
    exact .inr ⟨_, ticketed_stores ticketed ⟨found, underWay⟩ content,
      ⟨_, _, disk, handler, rfl, rfl, live, acts.symm⟩, named⟩

theorem ticketed_sendBody
    {server : Server} (ticketed : deployment.Ticketed initial scores)
    (content : server.scores = deployment.server.scores) :
    (serve deployment { deployment with server := server }
      socket).Ticketed initial scores := by
  unfold serve
  split
  · refine ticketed.congr content (fun _ => List.prefix_refl _)
      (fun _ => Nat.le_refl _) ?_
    intro place found score underWay
    rcases pending_setLink underWay with ⟨rfl, rfl⟩ | ⟨_, before⟩
    · cases underWay.2
    · exact before
  · exact ticketed_serves ticketed content fun _ _ _ found _ => found

theorem ticketed_cleanUp
    {server : Server} (ticketed : deployment.Ticketed initial scores)
    (content : server.scores = deployment.server.scores) :
    { deployment with
      server := server
      links := Function.update deployment.links socket none }.Ticketed initial
        scores := by
  apply ticketed_serves ticketed content
  intro place found score stands _
  by_cases own : place = socket
  · subst own
    rw [Function.update_self] at stands
    cases stands
  · rw [Function.update_of_ne own] at stands
    exact stands

/-- A step stores one score more, or none. -/
theorem ticketed_step
    {action : DeploymentAction} (linked : deployment.Linked)
    (ticketed : deployment.Ticketed initial scores)
    (stepped : step qsort sha256 deployment action = some next) :
    next.Ticketed initial scores ∨
      ∃ stored, next.Ticketed initial (scores ++ [stored]) ∧
        deployment.StoredBy action stored := by
  have kept : ∀ {taken server}, Server.step qsort deployment.server taken =
      some server → (∀ socket request disk,
        taken ≠ .receive socket request disk) →
          server.scores = deployment.server.scores := by
    intro taken server serverStepped notReceive
    rcases Server.scores_of_step serverStepped with
      same | ⟨place, score, disk, handler, isSubmit, _⟩
    · exact same
    · exact absurd isSubmit (notReceive _ _ _)
  cases steps_of_step stepped with
  | accept id socket accepted taken connected accepts =>
      exact .inl (ticketed_accept ticketed taken (kept accepts (by simp)))
  | refused id socket accepted taken unconnected =>
      exact .inl (ticketed_setClient ticketed taken)
  | call id socket call load taken =>
      exact .inl (ticketed_call linked ticketed taken)
  | «return» id socket outcome load taken delivers =>
      exact .inl (ticketed_return ticketed taken delivers)
  | quiet id socket action quiet taken =>
      exact .inl (ticketed_setClient ticketed taken)
  | receive socket disk found underWay taken =>
      exact ticketed_receive linked ticketed found underWay taken
  | sendBody socket sent taken =>
      exact .inl (ticketed_sendBody ticketed (kept taken (by simp)))
  | cleanUp socket taken =>
      exact .inl (ticketed_cleanUp ticketed (kept taken (by simp)))
  | inner action inner taken =>
      refine .inl (ticketed_serves ticketed (kept taken ?_)
        fun _ _ _ found _ => found)
      rintro socket request disk rfl
      exact inner

/-! ## Whole runs -/

theorem ticketed_start
    (users scores : DataFile) (wordlist : WordListResponse) :
    (start users scores wordlist).Ticketed scores [] where
  tickets := List.nodup_nil
  played := by simp
  content := rfl
  spent := by simp
  pending := by
    rintro socket link score ⟨found, _⟩
    cases found
  apart := by
    rintro socket other link link' score score' ⟨found, _⟩
    cases found

/-- Whatever the clients, the handlers and the disk do, the scores file is made
of the scores of different finished games, under the users who played them. -/
theorem earned_of_run
    {users scores : DataFile} {wordlist : WordListResponse}
    {actions : List DeploymentAction}
    (ran : (step qsort sha256).run (start users scores wordlist) actions =
      some deployment) :
    ∃ stored, deployment.Earned scores stored := by
  have both : deployment.Linked ∧
      ∃ stored, deployment.Ticketed scores stored := by
    apply Machine.run_preserves (fun state : Deployment =>
      state.Linked ∧ ∃ stored, state.Ticketed scores stored) _ _ ran
    · rintro state action next ⟨linked, stored, ticketed⟩ stepped
      refine ⟨step_linked linked stepped, ?_⟩
      rcases ticketed_step linked ticketed stepped with
        same | ⟨last, more, _⟩
      · exact ⟨stored, same⟩
      · exact ⟨_, more⟩
    · exact ⟨linked_start users scores wordlist, [],
        ticketed_start users scores wordlist⟩
  obtain ⟨_, stored, ticketed⟩ := both
  exact ⟨stored, ticketed.toEarned⟩

/-! ## One game -/

/-- The word is typed, the player quits, and the game ends. -/
def typesAndQuits : List GameAction :=
  Game.typesWord ++ .sigint true :: List.replicate 11 (.word 1 false) ++
    List.replicate 38 (.main .idle) ++ .main (.pressKey 10) ::
    List.replicate 6 (.main .idle)

def scoresOne : FinishedGame where
  wordList := Game.oneWord
  area := smallArea
  input := .blank
  actions := typesAndQuits
  final := (Game.step.run (.start Game.oneWord smallArea .blank)
    typesAndQuits).get (by decide +kernel)
  score := 1
  ran := (Option.some_get _).symm
  returned := by decide +kernel

/-- A request function, from its call to its return. -/
def asks (id socket : Nat) (call : RequestCall) (struct : List UInt8) :
    List DeploymentAction :=
  [.client id socket (.call call .succeed),
    .server (.receive socket call.function.request .succeed),
    .server (.sendHeader socket true),
    .server (.sendBody socket true),
    .client id socket (.return (.returns 0 struct) .succeed)]

/-- The server's list with the one word of `scoresOne`. -/
def oneWord : WordListResponse :=
  ⟨[.store maxWordStrLen (text "a")], by decide⟩

private theorem length_blankWordList :
    (List.replicate sizeofWordListResponse (0 : UInt8)).length =
      sizeofWordListResponse :=
  List.length_replicate

def wordlistCall : RequestCall where
  function := .sendWordlistRequest
  response := .replicate sizeofWordListResponse 0
  sized := length_blankWordList

/-- `bob` logs in, plays a game and submits its score. -/
def bobPlays : List DeploymentAction :=
  enters 0 4 "bob" ++ .client 0 4 .draw :: .client 0 4 (.key 49) ::
    asks 0 4 wordlistCall (wordListStruct oneWord) ++
      .client 0 4 (.play (.finished scoresOne)) ::
        asks 0 4 (Client.statusCall (.sendScoreSubmitRequest 1) rfl)
          (statusStruct (submitScoreImpl .succeed (some [])
            (.ofBuffer (text "bob")) 1).1)

set_option maxRecDepth 40000 in
theorem bobPlays_ran :
    ((step .insertion sha256OfPw).run (start twoAccounts (some []) oneWord)
      bobPlays).map (fun deployment =>
        (deployment.server.scores, (deployment.clients 0).games.length)) =
      some (some (text "bob:1\n"), 1) := by
  rfl

theorem earned_of_bobPlays :
    ∃ deployment, (step .insertion sha256OfPw).run
        (start twoAccounts (some []) oneWord) bobPlays = some deployment ∧
      deployment.server.scores = some (text "bob:1\n") ∧
        ∃ stored, deployment.Earned (some []) stored := by
  obtain ⟨deployment, ran, seen⟩ := Option.map_eq_some_iff.mp bobPlays_ran
  rw [Prod.mk.injEq] at seen
  exact ⟨deployment, ran, seen.1, earned_of_run ran⟩

end Deployment

end RainTyping
