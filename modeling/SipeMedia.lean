import SipeMedia.Base.CText
import SipeMedia.Sdp.Frame
import SipeMedia.Purple.Media
import SipeMedia.Call.Types
import SipeMedia.Sdp.Remote
import SipeMedia.Sdp.Format
import SipeMedia.Call.Machine
import SipeMedia.Call.Runs
import SipeMedia.Sdp.RoundTrip
import SipeMedia.Call.Lifetime
import SipeMedia.Call.Hold
import SipeMedia.Call.Messages
import SipeMedia.Call.Sessions
import SipeMedia.Sdp.Offer
