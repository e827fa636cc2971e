import FormCheck.Pattern.Cache
import FormCheck.Config.Json
import FormCheck.Config.File
import FormCheck.Validator.Builder
import FormCheck.Calendar.Format
import FormCheck.Json.Reading
import FormCheck.Proofs.Spec.Brackets
import FormCheck.Proofs.Spec.Cutting
import FormCheck.Proofs.FirstOccurrence
import FormCheck.Proofs.Spec.RoundTrip
import FormCheck.Proofs.Requirement
import FormCheck.Proofs.Table
import FormCheck.Proofs.Validator.Evaluation
import FormCheck.Proofs.Validator.Ending
import FormCheck.Proofs.Validator.Messages
import FormCheck.Proofs.Validator.Batch
import FormCheck.Proofs.Element
import FormCheck.Proofs.Validator.Elements
import FormCheck.Proofs.Registry.Reading
import FormCheck.Proofs.Validator.Influence
import FormCheck.Proofs.Registry.Changes
import FormCheck.Proofs.Validator.Strict
import FormCheck.Proofs.Validator.Signals
import FormCheck.Proofs.Validator.Stopping
import FormCheck.Proofs.Validator.SingleValue
import FormCheck.Proofs.Validator.Required
import FormCheck.Proofs.Validator.Log
import FormCheck.Proofs.Decimal.Digits
import FormCheck.Proofs.Calendar.Ones
import FormCheck.Proofs.Calendar.Rendering
import FormCheck.Proofs.Calendar.RoundTrip
import FormCheck.Proofs.Calendar.Runs
import FormCheck.Proofs.Calendar.Zones
import FormCheck.Proofs.Json.Written
import FormCheck.Proofs.Config.RoundTrip
import FormCheck.Proofs.Spec.Lists
import FormCheck.Proofs.Spec.Tokens
import FormCheck.Proofs.Spec.Composing
import FormCheck.Proofs.Validator.Reordering
import FormCheck.Proofs.Validator.Markers
import FormCheck.Proofs.Validator.SideBySide
import FormCheck.Proofs.Validator.Templates
import FormCheck.Proofs.Text.Replace
import FormCheck.Proofs.Message.Filling
import FormCheck.Proofs.Message.AroundValue
import FormCheck.Proofs.Check.Integer
import FormCheck.Proofs.Pattern.Spans
import FormCheck.Proofs.Pattern.Following
import FormCheck.Proofs.Pattern.Building
import FormCheck.Proofs.Pattern.Language
import FormCheck.Proofs.Pattern.Cache
import FormCheck.Proofs.Unicode.CaseFold
import FormCheck.Proofs.Check.Characters
import FormCheck.Proofs.Check.Email
import FormCheck.Proofs.Check.Number
import FormCheck.Proofs.Validator.Membership
import FormCheck.Proofs.Check.Length
import FormCheck.Proofs.Submission
import FormCheck.Proofs.Config.Rewording
import FormCheck.Proofs.Decimal.Double
import FormCheck.Proofs.Form
