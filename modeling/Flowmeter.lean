import Flowmeter.Proofs.Decoder.Records
import Flowmeter.Proofs.Export.Delivery
import Flowmeter.Proofs.Export.Interfaces
import Flowmeter.Proofs.Export.Selection
import Flowmeter.Proofs.FieldList.Printing
import Flowmeter.Proofs.Flow.FirstPacket
import Flowmeter.Proofs.Http.CookieList
import Flowmeter.Proofs.Http.Recording
import Flowmeter.Proofs.Http.TextValues
import Flowmeter.Proofs.InterfaceMap.Spacing
import Flowmeter.Proofs.InterfaceMap.Violation
import Flowmeter.Proofs.Mqtt.Presence
import Flowmeter.Proofs.Mqtt.Topics
import Flowmeter.Proofs.Octets.Cuts
import Flowmeter.Proofs.Quic.Counting
import Flowmeter.Proofs.Quic.Multiplexing
import Flowmeter.Proofs.Quic.OriginalId
import Flowmeter.Proofs.Quic.Truncation
import Flowmeter.Proofs.Tokens.Pulling
