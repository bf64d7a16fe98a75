import ListView.Main
import ListView.FileTree
import ListView.Proofs.Filter.Equality
import ListView.Proofs.Element.Change
import ListView.Proofs.Page.Walk
import ListView.Proofs.Element.Spelling
import ListView.Proofs.Element.OneOrMany
import ListView.Proofs.Entity.Decode
import ListView.Proofs.Entity.Locality
import ListView.Proofs.Page.Form
import ListView.Proofs.Page.Spelling
import ListView.Proofs.Page.Outcome
import ListView.Proofs.Filter.Insert
import ListView.Proofs.Filter.Conjunction
import ListView.Proofs.Page.Embedded
import ListView.Proofs.Filter.Turns
import ListView.Proofs.Page.Navigation
import ListView.Proofs.Page.Range
import ListView.Proofs.Page.Report
import ListView.Proofs.Filter.Completion
import ListView.Proofs.Command.NextPage
import ListView.Proofs.Filter.Setting
import ListView.Proofs.Filter.Repetition
import ListView.Proofs.Filter.Grammar
import ListView.Proofs.Filter.Division
import ListView.Proofs.Filter.Predicates
import ListView.Proofs.Filter.Edit
import ListView.Proofs.Filter.Typed
import ListView.Proofs.Settings.Resolve
