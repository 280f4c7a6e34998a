import SignIn.Call
import SignIn.Cookie
import SignIn.Cookie.Jar
import SignIn.Cookie.Operation
import SignIn.Cookie.Policy
import SignIn.Database
import SignIn.Digest.Base64Url
import SignIn.Digest.Sha256
import SignIn.Directory
import SignIn.Duration
import SignIn.Failure
import SignIn.Http.CookieHeader
import SignIn.Http.Exchange
import SignIn.Http.Path
import SignIn.Http.Request
import SignIn.Http.SetCookie
import SignIn.Log
import SignIn.Log.Document
import SignIn.Log.Facility
import SignIn.Log.Line
import SignIn.Log.Operation
import SignIn.Log.Redaction
import SignIn.Lookup
import SignIn.Number.Decimal
import SignIn.Number.Hexadecimal
import SignIn.Number.Numeral
import SignIn.Number.Quotient
import SignIn.OrderedMap
import SignIn.Pkce
import SignIn.Proofs.Cookie.Final
import SignIn.Proofs.Cookie.History
import SignIn.Proofs.Cookie.Reading
import SignIn.Proofs.Cookie.Shape
import SignIn.Proofs.Cookie.SignOut
import SignIn.Proofs.Cookie.Writing
import SignIn.Proofs.Database.Selection
import SignIn.Proofs.Digest.Base64Url
import SignIn.Proofs.Duration
import SignIn.Proofs.Http.CodedValue
import SignIn.Proofs.Http.Delivery
import SignIn.Proofs.Http.Header
import SignIn.Proofs.Http.Session
import SignIn.Proofs.Http.SetCookie
import SignIn.Proofs.Log.Document
import SignIn.Proofs.Log.Line
import SignIn.Proofs.Log.Redaction
import SignIn.Proofs.Log.Setup
import SignIn.Proofs.Lookup
import SignIn.Proofs.Lookup.Admin
import SignIn.Proofs.Lookup.Agreement
import SignIn.Proofs.Lookup.Mask
import SignIn.Proofs.Lookup.StorageFailure
import SignIn.Proofs.Lookup.Trace
import SignIn.Proofs.Number.Quotient
import SignIn.Proofs.OrderedMap
import SignIn.Proofs.Pkce
import SignIn.Proofs.Redirect
import SignIn.Proofs.Redirect.Decision
import SignIn.Proofs.Revocation
import SignIn.Proofs.Setup.Event
import SignIn.Proofs.Setup.Lifetime
import SignIn.Proofs.Setup.Singletons
import SignIn.Proofs.Setup.SiteUrl
import SignIn.Proofs.Text.Quoted
import SignIn.Proofs.Text.Split
import SignIn.Proofs.Text.Strip
import SignIn.Proofs.Transaction
import SignIn.Proofs.Transaction.Renaming
import SignIn.Proofs.User.Defect
import SignIn.Proofs.User.Format
import SignIn.Proofs.User.Row
import SignIn.Proofs.Value
import SignIn.Redirect
import SignIn.Revocation
import SignIn.Settings
import SignIn.Settings.Reading
import SignIn.Setup.Configuration
import SignIn.Setup.Engine
import SignIn.Setup.Fault
import SignIn.Setup.Provision
import SignIn.Storage
import SignIn.Text.Blank
import SignIn.Text.Case
import SignIn.Text.DecimalDigit
import SignIn.Text.Hex
import SignIn.Text.Printable
import SignIn.Text.Quoted
import SignIn.Text.Split
import SignIn.Transaction
import SignIn.User
import SignIn.User.Row
import SignIn.Uuid
import SignIn.Value
