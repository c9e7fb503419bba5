import CbangEvent.Basic
import CbangEvent.Headers
import CbangEvent.Negotiation
import CbangEvent.World
import CbangEvent.Request
import CbangEvent.Writer
import CbangEvent.Guarantee
import CbangEvent.Run
import CbangEvent.Finalize
import CbangEvent.ResponseHeaders
import CbangEvent.Delivery
import CbangEvent.Lifetime
import CbangEvent.TransportTrace
import CbangEvent.Cookies
import CbangEvent.Connection
import CbangEvent.SendsLast
