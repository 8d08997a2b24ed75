import EventRules.Action.Basic
import EventRules.Action.Compile
import EventRules.Action.Target
import EventRules.Action.Weighted
import EventRules.Attribute.Declaration
import EventRules.Attribute.Keyword
import EventRules.Attribute.Map
import EventRules.Attribute.Operation
import EventRules.Attribute.Value
import EventRules.Binary.Arithmetic
import EventRules.Binary.Basic
import EventRules.Block.Matcher
import EventRules.Block.Offset
import EventRules.Check
import EventRules.Condition.Alternatives
import EventRules.Condition.Catalogue
import EventRules.Condition.Clause
import EventRules.Condition.Count
import EventRules.Condition.Entity
import EventRules.Condition.Player
import EventRules.Condition.World
import EventRules.Decimal.Digits
import EventRules.Decimal.Nearest
import EventRules.Decimal.Shortest
import EventRules.Dict
import EventRules.Fault
import EventRules.Generator
import EventRules.Item.Matcher
import EventRules.Item.Stack
import EventRules.Json.Basic
import EventRules.Json.Number
import EventRules.Json.Printer
import EventRules.Json.Reader
import EventRules.Json.Record
import EventRules.Json.Skip
import EventRules.Problem
import EventRules.Rule.Experience
import EventRules.Rule.Load
import EventRules.Rule.Outcome
import EventRules.Rule.Spawn
import EventRules.Specifier.Compact
import EventRules.Specifier.Range
import EventRules.Specifier.RangeJson
import EventRules.Specifier.Scan
import EventRules.Tag.Basic
import EventRules.Tag.Matcher
import EventRules.Text.Blank
import EventRules.Text.Case
import EventRules.Text.CaseTable
import EventRules.Text.PrintTable
import EventRules.Text.Quoted
import EventRules.World.Basic
import EventRules.World.Event
import EventRules.World.Host
import EventRules.Proofs.Attribute.Reading
import EventRules.Proofs.Check.Draw
import EventRules.Proofs.Check.Evaluation
import EventRules.Proofs.Problem
import EventRules.Proofs.Rule.Kind
import EventRules.Proofs.Condition.Compile
import EventRules.Proofs.Condition.Form
import EventRules.Proofs.Rule.Conjunction
import EventRules.Proofs.Condition.Ordinary
import EventRules.Proofs.Action.Ordinary
import EventRules.Proofs.Attribute.Map
import EventRules.Proofs.Rule.Leftover
import EventRules.Proofs.Condition.Alternatives
import EventRules.Proofs.Condition.Silence
import EventRules.Proofs.Condition.Given
import EventRules.Proofs.Rule.Enforced
import EventRules.Proofs.Action.Reading
import EventRules.Proofs.Rule.Separation
import EventRules.Proofs.Rule.Batch
import EventRules.Proofs.Action.Draw
import EventRules.Proofs.Rule.Draw
import EventRules.Proofs.Condition.Integration
import EventRules.Proofs.Rule.Degradation
import EventRules.Proofs.Specifier.Number
import EventRules.Proofs.Text.Trim
import EventRules.Proofs.Specifier.Range
import EventRules.Proofs.Specifier.Print
import EventRules.Proofs.Count.Description
import EventRules.Proofs.Count.Current
import EventRules.Proofs.Condition.Toggle
import EventRules.Proofs.Condition.Disjunction
import EventRules.Proofs.Rule.Order
import EventRules.Proofs.Attribute.Extraction
import EventRules.Proofs.Item.Description
import EventRules.Proofs.Action.Adjustment
import EventRules.Proofs.Action.Body
import EventRules.Proofs.Rule.Adjusted
import EventRules.Proofs.Block.Description
import EventRules.Proofs.Condition.Equipment
import EventRules.Proofs.Rule.EmptyList
import EventRules.Proofs.Specifier.Place
import EventRules.Proofs.Specifier.Compact
import EventRules.Proofs.Binary.Comparison
import EventRules.Proofs.Tag.Equality
import EventRules.Proofs.Tag.Simulation
import EventRules.Proofs.Binary.Number
import EventRules.Proofs.Json.Number
import EventRules.Proofs.Item.Descriptor
import EventRules.Proofs.Tag.Description
import EventRules.Proofs.Tag.Integer
import EventRules.Proofs.Tag.Order
import EventRules.Proofs.Tag.Merge
import EventRules.Proofs.Binary.Value
import EventRules.Proofs.Specifier.Equality
import EventRules.Proofs.Count.Threshold
import EventRules.Proofs.Count.Mobs
import EventRules.Proofs.Count.Multiplicity
import EventRules.Proofs.Count.Exact
import EventRules.Proofs.Binary.Integer
import EventRules.Proofs.Count.Notation
import EventRules.Proofs.Binary.Rounding
import EventRules.Proofs.Binary.Operation
import EventRules.Proofs.Binary.Floor
import EventRules.Proofs.World.Position
import EventRules.Proofs.Block.Property
import EventRules.Proofs.Action.Weight
import EventRules.Proofs.Action.Equip
import EventRules.Proofs.Json.Literal
import EventRules.Proofs.Json.Print
import EventRules.Proofs.Json.Record
import EventRules.Proofs.Block.Offset
import EventRules.Proofs.Action.Inline
import EventRules.Proofs.Binary.Single
import EventRules.Proofs.Condition.Distance
import EventRules.Proofs.Rule.Experience
import EventRules.Proofs.Attribute.Operation
