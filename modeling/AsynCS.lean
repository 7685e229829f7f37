import AsynCS.Lib.Bytes
import AsynCS.Lib.CString
import AsynCS.Lib.FirstMatch
import AsynCS.Lib.Runs
import AsynCS.Kms.Registry
import AsynCS.Kms.PolicyWriteOnce
import AsynCS.Kms.LabelBinding
import AsynCS.Platform.Sgx
import AsynCS.Protocol.KeyRelease
import AsynCS.Kms.Enclave
import AsynCS.Kms.BfibeRelease
import AsynCS.Kms.Machine
import AsynCS.Kms.ReleaseGate
import AsynCS.Kms.LabelBypass
import AsynCS.Lib.Proc
import AsynCS.Worker.State
import AsynCS.Worker.KeyLoad
import AsynCS.Worker.BfibeLoad
import AsynCS.Protocol.KeyReleaseEndToEnd
import AsynCS.Worker.Encoding
import AsynCS.Worker.DecKey
import AsynCS.Worker.Capture
import AsynCS.Worker.Invocation
import AsynCS.Worker.Run
import AsynCS.Worker.RunSpec
import AsynCS.Worker.InputAuth
import AsynCS.Worker.EccSlot
import AsynCS.Worker.Machine
import AsynCS.Worker.BfibeSlot
import AsynCS.Worker.Provenance
import AsynCS.Worker.WarmStart
import AsynCS.Worker.RunKinds
import AsynCS.Lib.Words
import AsynCS.Lib.Text
import AsynCS.WorkerApp.Command
import AsynCS.Proxy.Request
import AsynCS.Proxy.CommandLine
import AsynCS.Lib.Files
import AsynCS.WorkerApp.Invoke
import AsynCS.Proxy.Handlers
import AsynCS.Proxy.Isolation
import AsynCS.Lib.PyStr
import AsynCS.Client.Encoding
import AsynCS.OpenWhisk.Invoker
import AsynCS.Protocol.RidAgreement
import AsynCS.Lib.PrefixFree
import AsynCS.OpenWhisk.RidCollision
import AsynCS.OpenWhisk.CouchDB
import AsynCS.OpenWhisk.Document
import AsynCS.Client.Sdk
import AsynCS.Lib.Framing
import AsynCS.Client.BfibeEnvelope
import AsynCS.Protocol.EnvelopeCodecs
import AsynCS.Client.BfibeKeyRelease
import AsynCS.Protocol.ReleaseCodecs
import AsynCS.Worker.KeyRoles
import AsynCS.Protocol.AadBinding
import AsynCS.Worker.OutputRoutes
import AsynCS.Kms.Restart
import AsynCS.Kms.Starts
import AsynCS.Lib.Stream
import AsynCS.Protocol.ServerReply
import AsynCS.Kms.Server
import AsynCS.WorkerApp.KmsClient
import AsynCS.Protocol.KmsResponse
import AsynCS.WorkerApp.DoInvoke
import AsynCS.WorkerApp.SkipKms
import AsynCS.Lib.LineScan
import AsynCS.WorkerApp.ServerLoop
import AsynCS.Proxy.WorkerResponse
import AsynCS.WorkerApp.RunText
import AsynCS.WorkerApp.ResponseText
import AsynCS.Proxy.WorkerPipe
import AsynCS.Worker.LabelKey
import AsynCS.OpenWhisk.InvokerReactive
import AsynCS.OpenWhisk.QueueOrder
import AsynCS.Lib.Json
import AsynCS.Lib.Decimal
import AsynCS.Lib.ByteBuffer
import AsynCS.OpenWhisk.ProtectedEnvelope
import AsynCS.OpenWhisk.TargetBoundContent
import AsynCS.OpenWhisk.GatewayControl
import AsynCS.OpenWhisk.TargetDispatch
import AsynCS.OpenWhisk.DispatchComplete
import AsynCS.OpenWhisk.Reschedule
import AsynCS.OpenWhisk.TargetResult
import AsynCS.OpenWhisk.ResultCorrelation
import AsynCS.OpenWhisk.FinalizedResults
import AsynCS.Lib.JvmBuffer
import AsynCS.OpenWhisk.EnvelopeCodec
import AsynCS.Lib.OffsetReader
import AsynCS.Worker.KeySetParser
import AsynCS.Protocol.KeySetCodecs
import AsynCS.Lib.ProcTriple
import AsynCS.Worker.RunCompletes
import AsynCS.Lib.TwoRuns
import AsynCS.Worker.TraceFlags
import AsynCS.WorkerApp.InvokeReport
import AsynCS.Lib.BoundedLog
import AsynCS.Worker.CaptureWords
import AsynCS.Lib.ProcRefines
import AsynCS.Worker.OutputReplay
import AsynCS.Lib.Ledger
import AsynCS.Kms.Connection
import AsynCS.Lib.FileLines
import AsynCS.Kms.PolicyFile
import AsynCS.Client.FidCollision
import AsynCS.Lib.QuotedText
import AsynCS.Workload.Command
import AsynCS.OpenWhisk.CompletionWindow
import AsynCS.OpenWhisk.PreparedRequests
import AsynCS.Lib.BitFields
import AsynCS.Lib.Stores
import AsynCS.Worker.Base64Words
import AsynCS.Workload.Base64
import AsynCS.OpenWhisk.GatewayClient
import AsynCS.Lib.Precedes
import AsynCS.OpenWhisk.Acknowledgement
import AsynCS.Lib.Chain
import AsynCS.OpenWhisk.TargetBindingProvider
import AsynCS.OpenWhisk.ContainerLifecycle
import AsynCS.Proxy.WorkerProcess
import AsynCS.Lib.BonehFranklin
import AsynCS.Platform.BfibeMcl
import AsynCS.Client.BfibeTool
import AsynCS.Protocol.KeyWrapping
import AsynCS.Protocol.KeyAgreement
import AsynCS.Client.SmokeArtifacts
import AsynCS.Protocol.Sessions
import AsynCS.Protocol.ResultDecryption
import AsynCS.Protocol.KeyRequest
import AsynCS.Protocol.Provisioning
import AsynCS.Protocol.ProvisioningBfibe
import AsynCS.Protocol.ClientToWorker
import AsynCS.Worker.TraceRid
import AsynCS.Client.EccIbe
import AsynCS.Protocol.SdkToWorker
import AsynCS.Lib.Coupled
import AsynCS.Worker.HostView
import AsynCS.Worker.KeyExposure
import AsynCS.Proxy.Runtime
