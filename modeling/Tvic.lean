import Tvic.Redis.TransactionSerialization
import Tvic.Tools.IdempotencyExclusivity
import Tvic.Redis.IdempotencyEquivalence
import Tvic.Media.AsyncQueueDelivery
import Tvic.Runtime.TerminalOutcome
import Tvic.Media.AudioChunking
import Tvic.Runtime.AudioTapDelivery
import Tvic.Dal.MemoryQuota
import Tvic.Tools.SingleExecution
import Tvic.Runtime.TerminalSessions
import Tvic.Runtime.AttachmentRecovery
import Tvic.LiveCall.TwimlReplay
import Tvic.Runtime.SessionMemoryPurge
import Tvic.Providers.TtsFailoverStreams
import Tvic.Postgres.IdempotencyClaims
import Tvic.Runtime.RecoveryHandOff
import Tvic.Providers.TtsFailoverPreflight
import Tvic.Runtime.GracefulEnd
import Tvic.Runtime.PersistenceRecovery
import Tvic.Runtime.Reattachment
import Tvic.Runtime.ContextRequest
import Tvic.Runtime.TextBatches
import Tvic.Runtime.LlmAccumulator
import Tvic.Runtime.TurnAlignment
import Tvic.Dal.SessionCreation
import Tvic.Runtime.SttEndpoints
import Tvic.Runtime.SttTimeline
import Tvic.Tools.RetryTiming
import Tvic.Dal.RecoveryPaging
import Tvic.Runtime.UsageConservation
import Tvic.Redis.RecoveryPreflight
import Tvic.Runtime.HealthySilence
import Tvic.Dal.CanonicalJson
import Tvic.Tools.SchemaAgreement
import Tvic.Runtime.SttCommandDrain
import Tvic.Providers.WebClientAudioRateWindow
import Tvic.Providers.SarvamWavChunks
import Tvic.Providers.SseEvents
import Tvic.Runtime.PromptBlocks
import Tvic.Providers.GroqChatProtocol
import Tvic.Runtime.LeaseHeartbeat
import Tvic.Providers.WebClientAcknowledgements
import Tvic.Providers.TimedStreamObjects
import Tvic.LiveCall.StreamTokenStore
import Tvic.Dal.RetentionDrain
import Tvic.Runtime.PipelineToolExec
import Tvic.Runtime.InterruptionCheckpoint
import Tvic.Providers.TtsEventBytes
import Tvic.Providers.AssemblyAiTurns
import Tvic.Providers.ElevenLabsCommits
