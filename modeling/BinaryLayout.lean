import BinaryLayout.Artifact
import BinaryLayout.Checksum
import BinaryLayout.Code
import BinaryLayout.Command.Argument
import BinaryLayout.Command.Basic
import BinaryLayout.Command.Run
import BinaryLayout.Decimal.Shortest
import BinaryLayout.Decode.Kind
import BinaryLayout.Decode.Value
import BinaryLayout.Decode.View
import BinaryLayout.Field.Context
import BinaryLayout.Field.Entry
import BinaryLayout.Field.Parameters
import BinaryLayout.Files.Basic
import BinaryLayout.Files.Memory
import BinaryLayout.Files.Path
import BinaryLayout.Helper
import BinaryLayout.Json.Error
import BinaryLayout.Json.Number
import BinaryLayout.Json.Reader
import BinaryLayout.Json.Value
import BinaryLayout.Kind.Basic
import BinaryLayout.Kind.Code
import BinaryLayout.Kind.Key
import BinaryLayout.Kind.Width
import BinaryLayout.Load
import BinaryLayout.Main
import BinaryLayout.Name
import BinaryLayout.Options
import BinaryLayout.Ordered
import BinaryLayout.Profile.Basic
import BinaryLayout.Profile.Build
import BinaryLayout.Profile.Cycle
import BinaryLayout.Proofs.ArenaGrowth
import BinaryLayout.Proofs.ArrayWalk
import BinaryLayout.Proofs.ByteLiterals
import BinaryLayout.Proofs.CanonicalName
import BinaryLayout.Proofs.ChoiceKeys
import BinaryLayout.Proofs.CountScope
import BinaryLayout.Proofs.CycleSearch
import BinaryLayout.Proofs.EncodedText
import BinaryLayout.Proofs.Expressions
import BinaryLayout.Proofs.FailedFills
import BinaryLayout.Proofs.FieldArena
import BinaryLayout.Proofs.FieldReads
import BinaryLayout.Proofs.FileReads
import BinaryLayout.Proofs.Formatters
import BinaryLayout.Proofs.GeneratedNames
import BinaryLayout.Proofs.HelperClosure
import BinaryLayout.Proofs.HelperText
import BinaryLayout.Proofs.HelpersDefined
import BinaryLayout.Proofs.KeySoundness
import BinaryLayout.Proofs.KeyTexts
import BinaryLayout.Proofs.KindText
import BinaryLayout.Proofs.ModuleName
import BinaryLayout.Proofs.NameNormalForm
import BinaryLayout.Proofs.OffsetOverride
import BinaryLayout.Proofs.OrderInvariance
import BinaryLayout.Proofs.OrderedMap
import BinaryLayout.Proofs.PageCoherence
import BinaryLayout.Proofs.PageRecency
import BinaryLayout.Proofs.PageStores
import BinaryLayout.Proofs.PageTouches
import BinaryLayout.Proofs.ProfileBuild
import BinaryLayout.Proofs.ProfileFidelity
import BinaryLayout.Proofs.QuotedText
import BinaryLayout.Proofs.Resolution
import BinaryLayout.Proofs.ScalarValues
import BinaryLayout.Proofs.SourceWords
import BinaryLayout.Proofs.SpanLocality
import BinaryLayout.Proofs.StringTable
import BinaryLayout.Proofs.TerminatedText
import BinaryLayout.Proofs.UnselectedInput
import BinaryLayout.Proofs.ValueNames
import BinaryLayout.Proofs.WideText
import BinaryLayout.Schema
import BinaryLayout.Source.Basic
import BinaryLayout.Source.File
import BinaryLayout.Source.PageCache
import BinaryLayout.Source.PageStore
import BinaryLayout.Source.Pages
import BinaryLayout.Spec
import BinaryLayout.Spec.Document
import BinaryLayout.Text.Alphabetic
import BinaryLayout.Text.Boundary
import BinaryLayout.Text.ByteLiteral
import BinaryLayout.Text.Extending
import BinaryLayout.Text.Numeric
import BinaryLayout.Text.Quoted
import BinaryLayout.Text.Unprintable
import BinaryLayout.Text.Uppercase
import BinaryLayout.Text.Utf16
import BinaryLayout.Text.Utf8
import BinaryLayout.Yaml.Cursor
import BinaryLayout.Yaml.Node
import BinaryLayout.Yaml.Problem
import BinaryLayout.Yaml.Scalar
import BinaryLayout.Yaml.Shape
import BinaryLayout.Yaml.Token
import BinaryLayout.Yaml.Tokens
