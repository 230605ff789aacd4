import Kotlinize.Config.Toml
import Kotlinize.Conversion.Remarks
import Kotlinize.Java.Descriptor.Decoding
import Kotlinize.Java.Descriptor.Encoding
import Kotlinize.Kotlin.JsonForm.Decoding
import Kotlinize.Kotlin.Remarks
import Kotlinize.Kotlin.Writer
import Kotlinize.Proofs.Settings
import Kotlinize.Proofs.TypeReading
import Kotlinize.Proofs.Lines
import Kotlinize.Proofs.Literals
import Kotlinize.Proofs.Writing
import Kotlinize.Proofs.Indentation
import Kotlinize.Proofs.Decoders
import Kotlinize.Proofs.Levels
import Kotlinize.Proofs.Descriptors
import Kotlinize.Proofs.SyntaxForms
import Kotlinize.Proofs.JsonText
import Kotlinize.Proofs.Layouts
import Kotlinize.Proofs.Spellings
import Kotlinize.Proofs.Grammar
import Kotlinize.Proofs.ClassNames
import Kotlinize.Proofs.ArrayCreation
import Kotlinize.Proofs.LiteralLexing
import Kotlinize.Proofs.Brackets
import Kotlinize.Proofs.NullMarks
import Kotlinize.Proofs.Nullability
import Kotlinize.Proofs.SafeCalls
import Kotlinize.Proofs.ConvertedFlags
import Kotlinize.Proofs.Naming
import Kotlinize.Proofs.SurplusSizes
import Kotlinize.Proofs.Outlines
import Kotlinize.Proofs.Escaping
