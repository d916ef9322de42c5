import CallLog.Call.Attributes
import CallLog.Config.Setup
import CallLog.Json.RoundTrip
import CallLog.Proofs.Assembly
import CallLog.Proofs.CallPayload
import CallLog.Proofs.ClientCalls
import CallLog.Proofs.SizeAccounting
import CallLog.Text.Utf8.RoundTrip
import CallLog.Proofs.WriteFates
import CallLog.Proofs.FullUrls
import CallLog.Proofs.HttpRequests
import CallLog.Proofs.HttpSimulation
import CallLog.Proofs.JsonForms
import CallLog.Proofs.RecordForms
import CallLog.Proofs.MemoryHistory
import CallLog.Proofs.CallIsolation
import CallLog.Proofs.RecordShape
import CallLog.Text.Utf8.Strict
import CallLog.Proofs.Configuration
import CallLog.Proofs.Startup
import CallLog.Proofs.GreedySelection
import CallLog.Proofs.RequestBody
import CallLog.Proofs.HttpAnswers
import CallLog.Proofs.Bisimulation
import CallLog.Proofs.TokenFlow
import CallLog.Proofs.RaisedCeilings
import CallLog.Proofs.HeaderStream
import CallLog.Proofs.CeilingFrame
import CallLog.Proofs.PeerIdentity
import CallLog.Text.Numeral
import CallLog.Proofs.Ipv6Canonical
import CallLog.Proofs.DecimalSeconds
import CallLog.Proofs.CalendarDays
import CallLog.Proofs.CivilTime
import CallLog.Proofs.DsnGrammar
import CallLog.Proofs.AttributeBags
import CallLog.Proofs.ByteFields
