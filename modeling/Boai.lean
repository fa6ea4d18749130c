import Boai.Lib.Dict
import Boai.Lib.StepMachine
import Boai.Lib.Interleaving
import Boai.Lib.ArgReader
import Boai.Lib.ExactDouble
import Boai.Lib.Utf8
import Boai.Lib.Outcome
import Boai.Lib.ParentChain
import Boai.Lib.KeyedFold
import Boai.Lib.FirstOccurrence
import Boai.Text
import Boai.Json.Value
import Boai.Json.Schema
import Boai.Completion.Types
import Boai.Completion.Url
import Boai.Completion.Response
import Boai.Completion.Request
import Boai.Completion.StateHeap
import Boai.Transport
import Boai.Completion.Pipeline
import Boai.Completion.Fetch
import Boai.Completion.FetchStream
import Boai.Reference
import Boai.Completion.StreamEvents
import Boai.Completion.StreamSteps
import Boai.Completion.ExactlyOnce
import Boai.Completion.StreamTrace
import Boai.Completion.Delivery
import Boai.Completion.Chunking
import Boai.Completion.CompletionSteps
import Boai.Completion.CompletionResult
import Boai.Completion.Outcome
import Boai.Completion.InvalidPayload
import Boai.Completion.SentRequest
import Boai.Completion.RequestCodec
import Boai.Completion.Conversation
import Boai.Completion.History
import Boai.Completion.StreamPayloads
import Boai.Completion.StreamResult
import Boai.Completion.UnansweredStream
import Boai.Completion.ToolCalls
import Boai.Completion.ToolCallSlots
import Boai.Completion.ToolCallFusion
import Boai.Completion.WireMessage
import Boai.Completion.StreamAgreement
import Boai.Completion.Choices
import Boai.Completion.ToolCallHistory
import Boai.Completion.Metadata
import Boai.Completion.ResponseFormat
import Boai.Completion.WholeTexts
import Boai.Completion.WholeStreams
import Boai.Completion.UrlIndices
import Boai.Completion.UrlParts
import Boai.Completion.Endpoint
import Boai.Completion.Relinking
import Boai.Completion.Isolation
import Boai.Completion.CallPhases
import Boai.Completion.CallTrace
import Boai.DeepseekDemo.Options
import Boai.DeepseekDemo.CommandLine
import Boai.DeepseekDemo.Settings
import Boai.DeepseekDemo.ParseArgs
import Boai.DeepseekDemo.Tools
import Boai.DeepseekDemo.ToolArguments
import Boai.DeepseekDemo.ToolResults
import Boai.DeepseekDemo.TextStats
import Boai.DeepseekDemo.ToolSchemas
import Boai.DeepseekDemo.Session
import Boai.DeepseekDemo.SessionRules
import Boai.DeepseekDemo.Dialogue
import Boai.DeepseekDemo.SessionRuns
import Boai.DeepseekDemo.Transcript
import Boai.DeepseekDemo.SessionOutcome
import Boai.DeepseekDemo.Reset
import Boai.DeepseekDemo.Main
