import ContentFinder.Sorting
import ContentFinder.Dict
import ContentFinder.Text.LowerCase
import ContentFinder.Text.Token
import ContentFinder.Text.Wildcard
import ContentFinder.Text.Quoted
import ContentFinder.Number.Decimal
import ContentFinder.Calendar.Rfc3339
import ContentFinder.Calendar.Rfc850
import ContentFinder.Specification
import ContentFinder.Field.Schema
import ContentFinder.Criterion.Basic
import ContentFinder.Index.Store
import ContentFinder.Content.DateHash
import ContentFinder.Content.Indexing
import ContentFinder.Content.Reading
import ContentFinder.Content.Visibility
import ContentFinder.Lowering.Basic
import ContentFinder.Data.Json
import ContentFinder.Data.Encode
import ContentFinder.Settings.Load
import ContentFinder.Finder
import ContentFinder.Proofs.Composition
import ContentFinder.Proofs.FieldName
import ContentFinder.Proofs.IndexedFields
import ContentFinder.Proofs.Tables
import ContentFinder.Proofs.Definitions
import ContentFinder.Proofs.DefinitionLists
import ContentFinder.Proofs.Registration
import ContentFinder.Proofs.Catalogue
import ContentFinder.Proofs.CheckedSettings
import ContentFinder.Proofs.Reading
import ContentFinder.Proofs.Comparison
import ContentFinder.Proofs.Expansion
import ContentFinder.Proofs.FieldCriteria
import ContentFinder.Proofs.Failures
import ContentFinder.Proofs.StoreRun
import ContentFinder.Proofs.Searching
import ContentFinder.Proofs.Visibility
import ContentFinder.Proofs.EventLog
import ContentFinder.Proofs.Replay
import ContentFinder.Proofs.LiveContents
import ContentFinder.Proofs.VisibleTotal
import ContentFinder.Proofs.FieldShape
import ContentFinder.Proofs.HitOrder
import ContentFinder.Proofs.LanguageCriterion
import ContentFinder.Proofs.NeutralFields
import ContentFinder.Proofs.SharedNames
import ContentFinder.Proofs.MissingLanguage
import ContentFinder.Proofs.VisibleLanguages
import ContentFinder.Proofs.LeafExpansion
import ContentFinder.Proofs.Wildcards
import ContentFinder.Proofs.OperandFit
import ContentFinder.Proofs.PropertyCriteria
import ContentFinder.Proofs.SingleContent
import ContentFinder.Proofs.FilterOrQuery
import ContentFinder.Proofs.Narrowing
import ContentFinder.Proofs.Paging
import ContentFinder.Proofs.Askable
import ContentFinder.Proofs.Widening
import ContentFinder.Proofs.FailedCalls
import ContentFinder.Proofs.NormalForm
import ContentFinder.Proofs.Refusals
import ContentFinder.Proofs.SameLanguages
import ContentFinder.Proofs.CalendarDays
import ContentFinder.Proofs.DateText
import ContentFinder.Proofs.WildcardRows
import ContentFinder.Proofs.Subtrees
import ContentFinder.Proofs.LowerCase
import ContentFinder.Proofs.Pieces
import ContentFinder.Proofs.SearchTerms
import ContentFinder.Proofs.OpenTerms
import ContentFinder.Proofs.SettledText
import ContentFinder.Proofs.Rounding
import ContentFinder.Proofs.ExactNumbers
import ContentFinder.Proofs.ValueOrder
import ContentFinder.Proofs.IdOrder
import ContentFinder.Proofs.Suggestions
import ContentFinder.Proofs.AskedNumbers
import ContentFinder.Proofs.IntegerFields
import ContentFinder.Proofs.WrittenScalars
import ContentFinder.Proofs.StoredValues
import ContentFinder.Proofs.Distances
import ContentFinder.Proofs.FacetCounts
import ContentFinder.Proofs.FieldPriority
import ContentFinder.Proofs.Projections
import ContentFinder.Proofs.NamedMoments
import ContentFinder.Proofs.AlikeFailures
import ContentFinder.Proofs.Alternatives
import ContentFinder.Proofs.GivenNames
import ContentFinder.Proofs.FieldsRead
