import GraphDecl.OrderedMap
import GraphDecl.Binary64.Text
import GraphDecl.Unicode.Case
import GraphDecl.Unicode.Cluster
import GraphDecl.Unicode.Printable
import GraphDecl.Json.Value
import GraphDecl.Json.Token
import GraphDecl.Json.Document
import GraphDecl.Json.Record
import GraphDecl.Syntax.Builder
import GraphDecl.Syntax.Estree
import GraphDecl.Schema.Validation
import GraphDecl.Options.Document
import GraphDecl.Generate.Basic
import GraphDecl.Proofs.Maps
import GraphDecl.Proofs.Result
import GraphDecl.Proofs.Independent
import GraphDecl.Proofs.BuilderFold
import GraphDecl.Proofs.FirstSeen
import GraphDecl.Proofs.Validity
import GraphDecl.Proofs.DerivedNames
import GraphDecl.Proofs.Emitted
import GraphDecl.Proofs.Reports
import GraphDecl.Proofs.UnknownTypes
import GraphDecl.Proofs.ImportsUsed
import GraphDecl.Proofs.Collisions
import GraphDecl.Proofs.Links
import GraphDecl.Proofs.Rearranged
import GraphDecl.Proofs.Reordered
import GraphDecl.Proofs.WrittenTokens
import GraphDecl.Proofs.WrittenValues
import GraphDecl.Proofs.EstreeText
import GraphDecl.Proofs.SchemaText
import GraphDecl.Proofs.Accepted
import GraphDecl.Proofs.Contents
import GraphDecl.Proofs.Guarantees
import GraphDecl.Proofs.AsciiClusters
import GraphDecl.Proofs.EnumKeys
import GraphDecl.Proofs.GivenNames
import GraphDecl.Proofs.FaultPlaces
import GraphDecl.Proofs.Captures
import GraphDecl.Proofs.Verdict
import GraphDecl.Proofs.TypeNames
import GraphDecl.Proofs.EmptyNames
import GraphDecl.Proofs.Occurrences
import GraphDecl.Proofs.MissingTables
import GraphDecl.Proofs.RecordForms
import GraphDecl.Proofs.Spellings
import GraphDecl.Proofs.Descriptions
import GraphDecl.Proofs.Renamed
import GraphDecl.Proofs.Cosmetics
import GraphDecl.Proofs.Determined
import GraphDecl.Proofs.RunLog
import GraphDecl.Proofs.ConstantText
import GraphDecl.Proofs.ImportHistories
import GraphDecl.Proofs.BuilderHistories
import GraphDecl.Proofs.StableKeys
import GraphDecl.Proofs.OptionSetters
