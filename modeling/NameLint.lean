import NameLint.Main
import NameLint.Proofs.Command.Exit
import NameLint.Proofs.Config.Blank
import NameLint.Proofs.Config.Build
import NameLint.Proofs.Naming.Conversion
import NameLint.Proofs.Naming.Division
import NameLint.Proofs.Naming.Grammar
import NameLint.Proofs.Naming.PlainText
import NameLint.Proofs.Naming.Respelling
import NameLint.Proofs.Reading.Braces
import NameLint.Proofs.Reading.CarriageReturn
import NameLint.Proofs.Reading.Cut
import NameLint.Proofs.Reading.Depth
import NameLint.Proofs.Reading.Initializer
import NameLint.Proofs.Reading.Items
import NameLint.Proofs.Reading.Limit
import NameLint.Proofs.Reading.Namespace
import NameLint.Proofs.Reading.Order
import NameLint.Proofs.Reading.Renaming
import NameLint.Proofs.Reading.Spelling
import NameLint.Proofs.Report.Canonical
import NameLint.Proofs.Scan.Aggregate
import NameLint.Proofs.Scan.Below
import NameLint.Proofs.Scan.Discovery
import NameLint.Proofs.Scan.Strict
import NameLint.Proofs.Scan.Suggestion
import NameLint.Proofs.Source.Decode
import NameLint.Proofs.Source.Directive
import NameLint.Proofs.Source.Spaced
import NameLint.Proofs.Source.Stream
import NameLint.Proofs.Source.Tiling
import NameLint.Proofs.Source.Undelimited
import NameLint.Proofs.Statement.Declarators
import NameLint.Proofs.Statement.Friend
import NameLint.Proofs.Statement.InRange
import NameLint.Proofs.Statement.Prototype
import NameLint.Proofs.Statement.Qualified
import NameLint.Proofs.Statement.TypeHead
import NameLint.Proofs.Statement.Values
import NameLint.Proofs.Report.Lines
import NameLint.Proofs.Scan.Lines
