import Intake.Binary64
import Intake.Binary64.Numeral
import Intake.Binary64.Rounding
import Intake.Binary64.Shortest
import Intake.Calendar.Date
import Intake.Calendar.Timestamp
import Intake.Constraint
import Intake.Constraint.Bounds
import Intake.Constraint.Quantity
import Intake.Decimal
import Intake.Decimal.Conversion
import Intake.Document
import Intake.Document.Json
import Intake.Document.Toml
import Intake.Document.Toml.Scalar
import Intake.Document.Toml.Table
import Intake.Document.Toml.Text
import Intake.Event
import Intake.Fields
import Intake.Input
import Intake.KeyPolicy
import Intake.Logging
import Intake.Logging.Filter
import Intake.Pattern
import Intake.Pattern.Bracket
import Intake.Pattern.Escape
import Intake.Pattern.Matching
import Intake.Pattern.Node
import Intake.Pattern.Property
import Intake.Pattern.Reader
import Intake.Pattern.Standard
import Intake.Power
import Intake.Proofs.Accounting
import Intake.Proofs.Binary64.Range
import Intake.Proofs.Building
import Intake.Proofs.Calendar.Date
import Intake.Proofs.Calendar.Timestamp
import Intake.Proofs.Coercion
import Intake.Proofs.Composition
import Intake.Proofs.Conformance
import Intake.Proofs.Decimal
import Intake.Proofs.Declarations
import Intake.Proofs.Depth
import Intake.Proofs.Effective
import Intake.Proofs.Equivalence
import Intake.Proofs.Failing
import Intake.Proofs.Faults
import Intake.Proofs.Halting
import Intake.Proofs.Invocation
import Intake.Proofs.Lists
import Intake.Proofs.Loosening
import Intake.Proofs.Nulls
import Intake.Proofs.Origins
import Intake.Proofs.Place
import Intake.Proofs.Place.Reading
import Intake.Proofs.Reasons
import Intake.Proofs.References
import Intake.Proofs.Reporting
import Intake.Proofs.Required
import Intake.Proofs.Revalidation
import Intake.Proofs.Running
import Intake.Proofs.SchemaPairs
import Intake.Proofs.SchemaTree
import Intake.Proofs.Sources
import Intake.Proofs.Text.Ascii
import Intake.Proofs.Text.Digits
import Intake.Proofs.Tracing
import Intake.Proofs.Unambiguous
import Intake.Proofs.Union
import Intake.Proofs.Value.Conversion
import Intake.Raw
import Intake.Raw.Syntax
import Intake.Raw.Writer
import Intake.Report
import Intake.Report.Reader
import Intake.Schema
import Intake.Schema.Draft
import Intake.Schema.Inspect
import Intake.Schema.Resolution
import Intake.Schema.Samples
import Intake.Service
import Intake.Settings
import Intake.Settings.Directory
import Intake.Settings.Dotenv
import Intake.Settings.Loader
import Intake.Settings.Reading
import Intake.Settings.Variables
import Intake.Text.Blank
import Intake.Text.Casing
import Intake.Text.Category
import Intake.Text.CharSet
import Intake.Text.CodeRanges
import Intake.Text.Digits
import Intake.Text.Folding
import Intake.Text.Inspect
import Intake.Text.Property
import Intake.Text.Script
import Intake.Typing.Coercion
import Intake.Typing.TypeTable
import Intake.Validation
import Intake.Validation.Metrics
import Intake.Validation.Outcome
import Intake.Validation.Path
import Intake.Validation.Recording
import Intake.Validation.Trace
import Intake.Value
import Intake.Value.Conversion
import Intake.Value.Text
import Intake.Proofs.Visits
import Intake.Proofs.Verdicts
import Intake.Proofs.Settings
import Intake.Proofs.Settings.Variables
import Intake.Proofs.Binary64.Rounding
import Intake.Proofs.Decimal.Scaling
import Intake.Proofs.Decimal.Conversion
import Intake.Proofs.Comparison
import Intake.Proofs.Bounds
import Intake.Proofs.Text.Numerals
import Intake.Proofs.Integers
import Intake.Proofs.Decimal.Literals
import Intake.Proofs.Decimal.Reading
import Intake.Proofs.Text.Bytes
import Intake.Proofs.Calendar.Reading
import Intake.Proofs.Calendar.Strict
import Intake.Proofs.Typing.Definitions
import Intake.Proofs.Typing.Resolution
import Intake.Proofs.Typing.Naming
import Intake.Proofs.Typing.Lifting
import Intake.Proofs.Typing.ReadingBack
import Intake.Proofs.Binary64.Shortest
import Intake.Proofs.Binary64.Nearest
import Intake.Proofs.Binary64.Scientific
import Intake.Proofs.Decimal.Notation
import Intake.Proofs.Binary64.Numeral
import Intake.Proofs.Binary64.Reading
import Intake.Proofs.Decimal.Numbers
import Intake.Proofs.Items
import Intake.Proofs.Inputs
import Intake.Proofs.Raw.Reading
import Intake.Proofs.Report.Reading
