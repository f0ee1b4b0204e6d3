import CrankerRouter.Farm.IdleCount
import CrankerRouter.Farm.Registration
import CrankerRouter.Farm.Dark
import CrankerRouter.Farm.CatchAll
import CrankerRouter.Farm.Domain
import CrankerRouter.Farm.Waiters
import CrankerRouter.V3.Totality
import CrankerRouter.V3.Isolation
import CrankerRouter.V3.Demux
import CrankerRouter.V3.Disconnect
import CrankerRouter.V3.Sequential
import CrankerRouter.V3.WakeUp
import CrankerRouter.Http.RequestHead
import CrankerRouter.V1.Upload
import CrankerRouter.V3.Lifetime
import CrankerRouter.V3.HeaderDelivery
import CrankerRouter.Http.Response
import CrankerRouter.ErrBranch
import CrankerRouter.V1.Spent
import CrankerRouter.V3.Teardown
import CrankerRouter.Farm.LongestFirst
import CrankerRouter.Farm.Scan
import CrankerRouter.Http.Negotiation
import CrankerRouter.ChunkListeners
import CrankerRouter.V3.ByteCounts
import CrankerRouter.V1.Responder
import CrankerRouter.Http.Backslash
import CrankerRouter.Http.ForwardedLines
import CrankerRouter.Http.BlockRoundTrip
import CrankerRouter.V1.Completion
import CrankerRouter.Farm.RouterInfo
import CrankerRouter.V3.RequestIds
import CrankerRouter.V1.Truncation
import CrankerRouter.V3.Credit
import CrankerRouter.Http.Hops
import CrankerRouter.Portal
import CrankerRouter.V3.Callback
import CrankerRouter.Farm.Notifier
