import ScopedConfig.Agent
import ScopedConfig.Converter
import ScopedConfig.Dict
import ScopedConfig.Dict.Lemmas
import ScopedConfig.DriverGroup
import ScopedConfig.Exchange
import ScopedConfig.FilePath
import ScopedConfig.FileTree.Basic
import ScopedConfig.FileTree.Directory
import ScopedConfig.FileTree.Lemmas
import ScopedConfig.FileTree.Replace
import ScopedConfig.Json.Basic
import ScopedConfig.Json.Lexer
import ScopedConfig.Json.Reader
import ScopedConfig.Json.Record
import ScopedConfig.Json.Writer
import ScopedConfig.Key
import ScopedConfig.KeyOp.Basic
import ScopedConfig.KeyOp.Reader
import ScopedConfig.Keyword.Basic
import ScopedConfig.Keyword.Catalog
import ScopedConfig.Keyword.Registry
import ScopedConfig.Kind
import ScopedConfig.Lists
import ScopedConfig.Number.Binary64
import ScopedConfig.Number.Decimal
import ScopedConfig.Number.Integer
import ScopedConfig.ObjectPath
import ScopedConfig.Owner
import ScopedConfig.Proofs.FileTree.Atomicity
import ScopedConfig.Proofs.FileTree.Contents
import ScopedConfig.Proofs.FileTree.Replacement
import ScopedConfig.Proofs.Json.Reading
import ScopedConfig.Proofs.Key
import ScopedConfig.Proofs.KeyOp.Grammar
import ScopedConfig.Proofs.KeyOp.RoundTrip
import ScopedConfig.Proofs.Number.Digits
import ScopedConfig.Proofs.Number.Rounding
import ScopedConfig.Proofs.Quantity.Size
import ScopedConfig.Proofs.RawConfig.Edits
import ScopedConfig.Proofs.RawConfig.Entries
import ScopedConfig.Proofs.RawConfig.Fidelity
import ScopedConfig.Proofs.RawConfig.JsonRoundTrip
import ScopedConfig.Proofs.RawConfig.RoundTrip
import ScopedConfig.Proofs.RawConfig.Source
import ScopedConfig.Proofs.RawConfig.Stability
import ScopedConfig.Proofs.RawConfig.WrittenLines
import ScopedConfig.Proofs.Reference.Occurrence
import ScopedConfig.Proofs.Reference.Substitution
import ScopedConfig.Proofs.Reference.Token
import ScopedConfig.Proofs.Store.AbsentResource
import ScopedConfig.Proofs.Store.Agreement
import ScopedConfig.Proofs.Store.CommitEffect
import ScopedConfig.Proofs.Store.DirectEvaluation
import ScopedConfig.Proofs.Store.Durability
import ScopedConfig.Proofs.Store.EntryOrder
import ScopedConfig.Proofs.Store.EvaluatedConfiguration
import ScopedConfig.Proofs.Store.ExpansionTree
import ScopedConfig.Proofs.Store.FanOut
import ScopedConfig.Proofs.Store.FreeSections
import ScopedConfig.Proofs.Store.Identifier
import ScopedConfig.Proofs.Store.Inertness
import ScopedConfig.Proofs.Store.LiveEntries
import ScopedConfig.Proofs.Store.MergeIdempotence
import ScopedConfig.Proofs.Store.MutationEffect
import ScopedConfig.Proofs.Store.NodeSections
import ScopedConfig.Proofs.Store.PostponedText
import ScopedConfig.Proofs.Store.Reference
import ScopedConfig.Proofs.Store.ReferenceChain
import ScopedConfig.Proofs.Store.Removal
import ScopedConfig.Proofs.Store.RepeatedName
import ScopedConfig.Proofs.Store.Resolution
import ScopedConfig.Proofs.Store.Run
import ScopedConfig.Proofs.Store.SectionDeletion
import ScopedConfig.Proofs.Store.Simulation
import ScopedConfig.Proofs.Store.Termination
import ScopedConfig.Proofs.Store.UnsetKey
import ScopedConfig.Proofs.Store.Visibility
import ScopedConfig.Proofs.Store.WriteVisibility
import ScopedConfig.Proofs.Text.Cut
import ScopedConfig.Proofs.Text.Lines
import ScopedConfig.Proofs.Text.Trim
import ScopedConfig.Proofs.Text.Words
import ScopedConfig.Proofs.TokenList
import ScopedConfig.Quantity.Duration
import ScopedConfig.Quantity.Size
import ScopedConfig.RawConfig.Basic
import ScopedConfig.RawConfig.Json
import ScopedConfig.RawConfig.Lemmas
import ScopedConfig.RawConfig.Mutation
import ScopedConfig.RawConfig.Reader
import ScopedConfig.RawConfig.Writer
import ScopedConfig.RawConfig.Yaml
import ScopedConfig.Reference.Modifier
import ScopedConfig.Reference.Scan
import ScopedConfig.Session
import ScopedConfig.Store.Basic
import ScopedConfig.Store.Commit
import ScopedConfig.Store.EvalError
import ScopedConfig.Store.Evaluation
import ScopedConfig.Store.Expansion
import ScopedConfig.Store.Outcome
import ScopedConfig.Store.Scope
import ScopedConfig.Store.Validation
import ScopedConfig.Text.Basic
import ScopedConfig.Text.Blank
import ScopedConfig.Text.CaseTable
import ScopedConfig.Text.DecimalDigit
import ScopedConfig.Text.LetterCase
import ScopedConfig.Text.Quoted
import ScopedConfig.Text.ShellWord
import ScopedConfig.Text.VisibilityTable
import ScopedConfig.Text.WordCharacter
import ScopedConfig.TokenList
import ScopedConfig.Value
import ScopedConfig.Yaml.Resolution
import ScopedConfig.Yaml.Scalar
