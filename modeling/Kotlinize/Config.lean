import Kotlinize.Json.Decoder

/-!
# Configuration

The settings of a conversion.
-/

namespace Kotlinize

/-- **The settings of a conversion.** -/
structure Config where
  /-- Whether resolved classes are named by their qualified names. -/
  fullyQualified : Bool := false
deriving DecidableEq, Inhabited

namespace Config

/-- The key of the setting for qualified names. -/
def fullyQualifiedKey : String := "fully_qualified_type_names"

/-- **Reads settings from JSON**; a setting that is absent has its default. -/
def decoder : Decoder Config :=
  .record {
    title := "struct ConverterConfig"
    fields := Config.mk <$> .defaulted fullyQualifiedKey .flag false }

end Config

end Kotlinize
