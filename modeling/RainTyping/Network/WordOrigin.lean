import RainTyping.Client.LoadedWords
import RainTyping.Network.ResponsesInFlight
import RainTyping.Network.ScoreOrigin

/-!
# Where the words come from

The only word list on its way to a client is the server's, and a client plays
with the words of this list, all of them and in their order.
-/

namespace RainTyping

namespace Deployment

/-- Every word list in flight is the server's, and every client plays with
its words. -/
structure SharesWords (deployment : Deployment) (list : WordListResponse) :
    Prop where
  server : deployment.server.wordlist = list
  inFlight : ∀ other, deployment.Carries (.wordlist other) → other = list
  clients : ∀ id, (deployment.clients id).HasWords list

variable {qsort : QSort} {sha256 : Sha256} {deployment next : Deployment}
  {list : WordListResponse} {id : Nat} {client : Client}

theorem answers_of_delivers
    {action : ClientAction}
    (inFlight : ∀ other, deployment.Carries (.wordlist other) → other = list)
    (delivers : ∀ outcome load, action = .return outcome load →
      ∃ between, deployment.Delivers id outcome between) :
    (deployment.clients id).Answers list action := by
  unfold Client.Answers
  split
  · rename_i memory load
    intro here
    obtain ⟨between, delivered⟩ := delivers _ _ rfl
    cases delivered with
    | @answered function response memory awaits arrived sized read =>
        rw [Client.Awaits, here] at awaits
        cases awaits
        have mapped : (readWordList memory).map Response.wordlist =
            some response := read
        obtain ⟨other, readList, rfl⟩ := Option.map_eq_some_iff.mp mapped
        have same := inFlight other (.inr ⟨id, arrived⟩)
        subst same
        exact ⟨sized, readList⟩
    | interrupted failed signaled => exact absurd rfl failed
  · trivial

theorem step_sharesWords
    {action : DeploymentAction} (shares : deployment.SharesWords list)
    (stepped : step qsort sha256 deployment action = some next) :
    next.SharesWords list where
  server := by
    rcases server_of_step stepped with same | ⟨taken, serverStepped, _⟩
    · rw [same]
      exact shares.server
    · exact (Server.step_wordlist serverStepped).trans shares.server
  inFlight := by
    intro other carries
    rcases carries_of_step stepped carries with
      before | ⟨taken, computed, _⟩
    · exact shares.inFlight other before
    · cases computed with
      | status status => cases status
      | wordlist => exact shares.server
  clients := by
    intro other
    rcases clients_of_step stepped with
      same | ⟨id, socket, taken, client, _, clientStepped, changed, delivers⟩
    · rw [same]
      exact shares.clients other
    · rw [changed]
      by_cases own : other = id
      · subst own
        rw [Function.update_self]
        exact Client.hasWords_of_step (shares.clients other)
          (answers_of_delivers shares.inFlight delivers) clientStepped
      · rw [Function.update_of_ne own]
        exact shares.clients other

theorem sharesWords_start
    (users scores : DataFile) (list : WordListResponse) :
    (start users scores list).SharesWords list where
  server := rfl
  inFlight := by
    rintro other (⟨socket, handler, live, _⟩ | ⟨id, arrived⟩)
    · cases live
    · cases arrived
  clients := by
    intro id
    refine ⟨.inl rfl, fun _ => rfl, fun _ => rfl, nofun, ?_⟩
    intro game member
    cases member

/-- Whatever the clients, the handlers, the network and the memory do, a game
is played with all words of the server's list, and there are some. -/
theorem words_of_run
    {users scores : DataFile} {actions : List DeploymentAction}
    (ran : (step qsort sha256).run (start users scores list) actions =
      some deployment) :
    ∀ id user game, (user, game) ∈ (deployment.clients id).games →
      game.wordList = list.words.map CharArray.toCString ∧
        list.words ≠ [] := by
  have shares : deployment.SharesWords list :=
    Machine.run_preserves (fun state : Deployment => state.SharesWords list)
      (fun _ _ _ shares stepped => step_sharesWords shares stepped)
      (sharesWords_start users scores list) ran
  intro id user game member
  obtain ⟨words, some⟩ := (shares.clients id).played _ member
  refine ⟨words, ?_⟩
  rintro none
  exact some (by rw [WordListResponse.strings, none, List.map_nil])

/-- `bob` has played with the one word. -/
theorem words_of_bobPlays :
    ∃ deployment, (step .insertion sha256OfPw).run
        (start twoAccounts (some []) oneWord) bobPlays = some deployment ∧
      (deployment.clients 0).games.length = 1 ∧
        ∀ user game, (user, game) ∈ (deployment.clients 0).games →
          game.wordList = oneWord.words.map CharArray.toCString := by
  obtain ⟨deployment, ran, seen⟩ := Option.map_eq_some_iff.mp bobPlays_ran
  rw [Prod.mk.injEq] at seen
  refine ⟨deployment, ran, seen.2, ?_⟩
  intro user game member
  exact (words_of_run ran 0 user game member).1

end Deployment

end RainTyping
