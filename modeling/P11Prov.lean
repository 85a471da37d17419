import P11Prov.Object.Lifetime
import P11Prov.Object.Fork
import P11Prov.Availability
import P11Prov.Session.Login
import P11Prov.Provider.Algorithms
import P11Prov.Provider.Pool
import P11Prov.Session.Pin
import P11Prov.Uri.RoundTrip
import P11Prov.Store.Traversal
import P11Prov.Signature.Fallback
import P11Prov.Session.Codes
import P11Prov.Cipher.Bounds
import P11Prov.Cipher.RoundTrip
import P11Prov.AsymmetricCipher.Padding
import P11Prov.AsymmetricCipher.Modes
import P11Prov.Derive.Slots
import P11Prov.Signature.Ecdsa
import P11Prov.Signature.Pss
import P11Prov.Signature.Saltlen
import P11Prov.Signature.PssDefaults
import P11Prov.KeySchedule.Tls13
import P11Prov.Digests.Runs
import P11Prov.Exchange.Requests
import P11Prov.Cipher.Restart
import P11Prov.Object.EcPoint
import P11Prov.Provider.Slots
import P11Prov.Attributes
import P11Prov.Sequence.Cursor
import P11Prov.Store.Load
import P11Prov.Sequence.SlotArray
import P11Prov.Object.Pool
import P11Prov.Object.Import
import P11Prov.Object.Fetch
import P11Prov.Store.Find
import P11Prov.Object.Refresh
import P11Prov.Object.Coordinates
import P11Prov.KeySchedule.Reset
import P11Prov.KeySchedule.Refine
import P11Prov.Uri.Slices
import P11Prov.Options
import P11Prov.Options.Names
import P11Prov.Uri.Numbers
import P11Prov.Provider.QuirkStore
import P11Prov.Provider.QuirkRuns
import P11Prov.Sequence.Filling
import P11Prov.Object.AttrArrays
import P11Prov.Object.AttrBounds
import P11Prov.Object.Held
import P11Prov.Object.RoundTrip
import P11Prov.Object.Match
import P11Prov.Object.PrivateRuns
import P11Prov.Signature.Start
import P11Prov.Signature.Verify
import P11Prov.Signature.Contexts
import P11Prov.Signature.Steps
import P11Prov.Signature.Runs
import P11Prov.Sequence.Writers
import P11Prov.Uri.Order
import P11Prov.Store.KeyFile
import P11Prov.Kem.Runs
