import RainTyping.Support.Runs
import RainTyping.Server.UserStore
import RainTyping.Server.ScoreManager
import RainTyping.Server.Leaderboard
import RainTyping.Server.ScoreLog
import RainTyping.Server.LoggedInUsers
import RainTyping.Server.HandleClient
import RainTyping.Server.LoginSessions
import RainTyping.Server.SingleLogin
import RainTyping.Server.SessionOwner
import RainTyping.Server.RegisterRace
import RainTyping.Server.PeerClose
import RainTyping.Server.WholeRequest
import RainTyping.Server.RequestDecoding
import RainTyping.Client.ActiveWords
import RainTyping.Client.WordSlots
import RainTyping.Support.Locks
import RainTyping.Client.GameLogic
import RainTyping.Client.SlotOwner
import RainTyping.Client.RoundAccounts
import RainTyping.Client.GameRound
import RainTyping.Client.ScoreAndLives
import RainTyping.Client.GameLocks
import RainTyping.Client.Shutdown
import RainTyping.Server.LeaderboardEntries
import RainTyping.Server.RegisteredUsers
import RainTyping.Support.LineSplitting
import RainTyping.Server.BadLines
import RainTyping.Server.Conversation
import RainTyping.Server.ScoreAuthenticity
import RainTyping.Server.SessionIsolation
import RainTyping.Client.ScreenIndex
import RainTyping.Client.WordsOnScreen
import RainTyping.Client.GameInput
import RainTyping.Server.WordManager
import RainTyping.Client.TypableWords
import RainTyping.Client.AuthForm
import RainTyping.Network.MessageLayout
import RainTyping.Support.ByteStream
import RainTyping.Network.ResponseLayout
import RainTyping.Client.ClientNetwork
import RainTyping.Network.Session
import RainTyping.Network.Lockstep
import RainTyping.Network.Completion
import RainTyping.Support.LinePieces
import RainTyping.Server.WordFile
import RainTyping.Server.Appends
import RainTyping.Server.ReadErrors
import RainTyping.Support.Frames
import RainTyping.Network.Intake
import RainTyping.Network.ServerFraming
import RainTyping.Client.ResponseFraming
import RainTyping.Client.WordListDecoding
import RainTyping.Client.KeyboardModel
import RainTyping.Client.ActiveWordSet
import RainTyping.Client.SlotThreads
import RainTyping.Client.JoinedThreads
import RainTyping.Client.Playfield
import RainTyping.Client.SpawnWord
import RainTyping.Client.SpawnSteps
import RainTyping.Support.Pacing
import RainTyping.Client.GameClock
import RainTyping.Client.StepEffects
import RainTyping.Client.FallTimes
import RainTyping.Client.GameTempo
import RainTyping.Client.GameOver
import RainTyping.Client.GameReturns
import RainTyping.Client.DrawGame
import RainTyping.Client.ClientMain
import RainTyping.Client.ClientDialogue
import RainTyping.Client.ClientExit
import RainTyping.Client.ClientSteps
import RainTyping.Network.Deployment
import RainTyping.Network.HandlerWork
import RainTyping.Network.Connections
import RainTyping.Network.ServedUsers
import RainTyping.Client.ClientGames
import RainTyping.Client.LoadedWords
import RainTyping.Network.ResponsesInFlight
import RainTyping.Network.ScoreOrigin
import RainTyping.Network.WordOrigin
import RainTyping.Network.LeaderboardOrigin
import RainTyping.Network.SessionTable
