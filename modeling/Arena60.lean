import Arena60.Misc.Runs
import Arena60.Misc.ExactArith
import Arena60.Matchmaking.Matchmaker
import Arena60.Matchmaking.MatchingPass
import Arena60.Matchmaking.PassGuarantees
import Arena60.Matchmaking.Threads
import Arena60.Matchmaking.Conservation
import Arena60.Game.Combat
import Arena60.Game.Projectile
import Arena60.Game.GameSession
import Arena60.Game.SessionRun
import Arena60.Game.SessionTrace
import Arena60.Game.LifeAccounts
import Arena60.Game.DeathLedger
import Arena60.Game.ProjectileLedger
import Arena60.Stats.MatchStats
import Arena60.Stats.MatchTotals
import Arena60.Stats.LeaderboardStore
import Arena60.Stats.PlayerProfileService
import Arena60.Stats.ProfileTotals
import Arena60.Game.Presence
import Arena60.Game.AimOverflow
import Arena60.Stats.Accuracy
import Arena60.Network.WiredServer
import Arena60.Network.LifetimeTotals
import Arena60.Network.MatchCounts
import Arena60.Game.Duel
import Arena60.Stats.DuelStats
import Arena60.Stats.Leaderboard
import Arena60.Stats.TopProfiles
import Arena60.Misc.Shuffle
import Arena60.Game.ArrivalOrder
import Arena60.Game.HashOrder
import Arena60.Game.Stretches
import Arena60.Misc.RealArith
import Arena60.Game.FireRate
import Arena60.Game.SpeedLimit
import Arena60.Network.WebSocketServer
import Arena60.Network.ClientRegistry
import Arena60.Network.RegistryAgreement
import Arena60.Network.PlayerControl
import Arena60.Network.RatedMatching
import Arena60.Misc.RootArith
import Arena60.Network.ServerParts
import Arena60.Network.ConnectionGauge
import Arena60.Game.TickDeaths
import Arena60.Network.DeathFrames
import Arena60.Matchmaking.QueueRuns
import Arena60.Matchmaking.MatchmakingMetrics
import Arena60.Misc.RealPowers
import Arena60.Stats.RatingDrift
import Arena60.Core.GameLoop
import Arena60.Core.Lifecycle
import Arena60.Core.StopReturns
import Arena60.Core.Schedule
import Arena60.Game.Flights
import Arena60.Game.StraightShot
import Arena60.Misc.Json
import Arena60.Misc.JsonText
import Arena60.Misc.Decimals
import Arena60.Stats.ProfileJson
import Arena60.Matchmaking.PartnerScan
import Arena60.Stats.LeaderboardRuns
import Arena60.Stats.MatchBalance
import Arena60.Stats.RecordedTotals
import Arena60.Game.Trajectories
import Arena60.Misc.TextSearch
import Arena60.Network.ProfileHttpRouter
import Arena60.Network.LimitQuery
import Arena60.Network.Routes
import Arena60.Misc.InputStreams
import Arena60.Misc.Numerals
import Arena60.Network.InputFrames
import Arena60.Network.FrameWords
import Arena60.Game.HealthCalls
import Arena60.Game.BoundingBox
import Arena60.Game.StaleInputs
import Arena60.Stats.MatchIds
import Arena60.Misc.Binary64
import Arena60.Misc.NumericPrefix
import Arena60.Core.Config
import Arena60.Core.LoopSteps
import Arena60.Core.LoopTicks
import Arena60.Core.JoinReturns
import Arena60.Network.StateStream
import Arena60.Network.ServerProcess
import Arena60.Network.TickDelivery
import Arena60.Network.Shutdown
import Arena60.Matchmaking.Waiting
import Arena60.Network.Lobby
import Arena60.Game.ProjectileBound
import Arena60.Network.SessionOps
import Arena60.Network.ProjectileLimits
import Arena60.Game.Locality
import Arena60.Misc.GeneralNotation
import Arena60.Network.ClientFrames
import Arena60.Network.QueueEvents
import Arena60.Game.CombatTotals
import Arena60.Misc.Exposition
import Arena60.Network.Metrics
import Arena60.Game.Fallen
import Arena60.Network.MetricsHttpServer
import Arena60.Network.HttpAnswers
import Arena60.Network.ArenaRefinement
