import FormValidation.Locale.Date
import FormValidation.Locale.Table
import FormValidation.Main
import FormValidation.Proofs.Engine.Configured
import FormValidation.Proofs.Engine.FailFast
import FormValidation.Proofs.Engine.Immediate
import FormValidation.Proofs.Engine.Synchronous
import FormValidation.Proofs.Locale.DateWriting
import FormValidation.Proofs.Rule.Declaring
import FormValidation.Proofs.Signal.Delivery
import FormValidation.Signal.Basic
import FormValidation.Text.Quoted
import FormValidation.Proofs.Engine.Declaration
import FormValidation.Proofs.Engine.Restriction
import FormValidation.Proofs.Engine.Noninterference
import FormValidation.Proofs.Signal.Performance
import FormValidation.Proofs.Locale.Groups
import FormValidation.Proofs.Text.ByteOrder
import FormValidation.Proofs.Engine.Failure
import FormValidation.Proofs.Engine.Locales
import FormValidation.Proofs.Json.Tokens
import FormValidation.Proofs.Json.Reading
import FormValidation.Proofs.Json.Layout
import FormValidation.Proofs.Form.Document
import FormValidation.Proofs.Locale.DateChecking
import FormValidation.Proofs.Settings.Layers
import FormValidation.Proofs.CommandLine.Program
import FormValidation.Proofs.Rule.Email
import FormValidation.Proofs.Value.Formats
import FormValidation.Proofs.Locale.DatePrinting
import FormValidation.Proofs.Engine.Reporting
import FormValidation.Proofs.Engine.LocaleIndependence
import FormValidation.Proofs.Form.Restoring
import FormValidation.Proofs.CommandLine.LocaleOption
import FormValidation.Proofs.Latest
import FormValidation.Proofs.Validator.Registry
import FormValidation.Proofs.Text.Listing
import FormValidation.Proofs.Settings.Toml
import FormValidation.Proofs.Settings.Registration
import FormValidation.Proofs.Json.Path
