import RelSchema.Data.Checked
import RelSchema.Schema.Comparison

/-!
Reading the results of comparisons from data.
-/
namespace RelSchema

open Data

def MissingColumn.ofData : Data → Checked MissingColumn :=
  asRecord "ColumnDiff" fun members =>
    MissingColumn.mk <$> required members "table" asText
      <*> required members "column" asText
      <*> withDefault members "message" asText ""

def Comparison.ofData : Data → Checked Comparison :=
  asRecord "SchemaValidationResult" fun members =>
    Comparison.mk <$> required members "valid" asBool
      <*> withDefault members "missing_tables" (asList asText) []
      <*> withDefault members "missing_columns" (asList MissingColumn.ofData) []
      <*> withDefault members "extra_tables" (asList asText) []

end RelSchema
