import CertPress.Asset.Resolver
import CertPress.Base64
import CertPress.Context.Normalize
import CertPress.Markup.Render
import CertPress.Print.Fonts
import CertPress.Print.Page
import CertPress.Print.Programs
import CertPress.Proofs.Asset.Containment
import CertPress.Proofs.Asset.DataUrl
import CertPress.Proofs.Asset.Degraded
import CertPress.Proofs.Asset.Embedding
import CertPress.Proofs.Asset.Fallback
import CertPress.Proofs.Asset.Foreign
import CertPress.Proofs.Base64
import CertPress.Proofs.Markup.Balance
import CertPress.Proofs.Markup.Innermost
import CertPress.Proofs.Markup.Leak
import CertPress.Proofs.Markup.Lookup
import CertPress.Proofs.Markup.Paths
import CertPress.Proofs.Markup.Reader
import CertPress.Proofs.Markup.RoundTrip
import CertPress.Proofs.Markup.Unrolling
import CertPress.Proofs.Print.Calls
import CertPress.Proofs.Print.Enumeration
import CertPress.Proofs.Record.Complete
import CertPress.Proofs.Record.Update
import CertPress.Proofs.Render.Cache
import CertPress.Proofs.Render.Decoration
import CertPress.Proofs.Render.Footprint
import CertPress.Proofs.Render.Listed
import CertPress.Proofs.Render.Modes
import CertPress.Proofs.Render.Normal
import CertPress.Proofs.Render.Readable
import CertPress.Proofs.Render.Tables
import CertPress.Proofs.Render.Trust
import CertPress.Proofs.Service.Attached
import CertPress.Proofs.Service.Discretion
import CertPress.Proofs.Service.Download
import CertPress.Proofs.Service.Generate
import CertPress.Proofs.Service.Preview
import CertPress.Proofs.Settings.Version
import CertPress.Proofs.Store.Atomic
import CertPress.Proofs.Store.Confined
import CertPress.Proofs.Store.RoundTrip
import CertPress.Proofs.Store.Run
import CertPress.Record.Document
import CertPress.Record.Key
import CertPress.Render.Cache
import CertPress.Render.Pipeline
import CertPress.Service.Router
import CertPress.Settings.Server
import CertPress.Sha256
import CertPress.Store.Record
import CertPress.Text.Percent
