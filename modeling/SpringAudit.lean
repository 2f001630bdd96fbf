import SpringAudit.Text.Utf8
import SpringAudit.Source.OfSyntax
import SpringAudit.Endpoint.Extraction
import SpringAudit.Report.Text
import SpringAudit.Report.Table
import SpringAudit.Project.Scan
import SpringAudit.Project.Sources
import SpringAudit.Project.Gradle
import SpringAudit.Xml.ContentModel
import SpringAudit.Xml.Entity
import SpringAudit.Xml.Prolog
import SpringAudit.Xml.Encoding
import SpringAudit.Xml.Element
import SpringAudit.Project.Failure
import SpringAudit.Project.Maven
import SpringAudit.Project.Basic
import SpringAudit.Project.Analysis
import SpringAudit.CommandLine.Options
import SpringAudit.CommandLine.Run
import SpringAudit.Main
import SpringAudit.Proofs.OrderedMap.Writes
import SpringAudit.Proofs.OrderedMap.History
import SpringAudit.Proofs.Endpoint.Emission
import SpringAudit.Proofs.Endpoint.Accounting
import SpringAudit.Proofs.Traversal
import SpringAudit.Proofs.Source.Escape
import SpringAudit.Proofs.Source.Conversion
import SpringAudit.Proofs.Java.Lexer
import SpringAudit.Proofs.Java.UnicodeEscape
import SpringAudit.Proofs.Java.Parser.Progress
import SpringAudit.Proofs.Java.Parser.Type
import SpringAudit.Proofs.Java.Parser.AnnotationUse
import SpringAudit.Proofs.Java.Parser.Expression
import SpringAudit.Proofs.Java.Parser.Statement
import SpringAudit.Proofs.Java.Parser.Declaration
import SpringAudit.Proofs.Java.Parser.CompilationUnit
import SpringAudit.Proofs.Java.Reading
import SpringAudit.Proofs.Project.Sources
import SpringAudit.Proofs.Endpoint.Order
import SpringAudit.Proofs.CommandLine.ExitCode
import SpringAudit.Proofs.Endpoint.SharedStore
import SpringAudit.Proofs.Source.Marker
import SpringAudit.Proofs.Endpoint.Essential
import SpringAudit.Proofs.Endpoint.GuardIndependence
import SpringAudit.Proofs.Endpoint.Exchange
import SpringAudit.Proofs.Endpoint.Spelling
import SpringAudit.Proofs.Project.Isolation
import SpringAudit.Proofs.Source.Constant
import SpringAudit.Proofs.Source.Arrays
import SpringAudit.Proofs.Source.StringLiteral
import SpringAudit.Proofs.FileTree.Nodes
import SpringAudit.Proofs.FileTree.Resolve
import SpringAudit.Proofs.Xml.Encoding
import SpringAudit.Proofs.Project.Maven
import SpringAudit.Proofs.Text.Basic
import SpringAudit.Proofs.Text.Numeral
import SpringAudit.Proofs.Project.SettingsScript
import SpringAudit.Proofs.Project.Gradle
import SpringAudit.Proofs.FileTree.Listing
import SpringAudit.Proofs.Project.Scan
import SpringAudit.Proofs.Project.ScanLimit
import SpringAudit.Proofs.Endpoint.Key
import SpringAudit.Proofs.Endpoint.Guarded
import SpringAudit.Proofs.Java.Nesting
import SpringAudit.Proofs.Java.Parser.Names
import SpringAudit.Proofs.Source.ClassList
import SpringAudit.Proofs.Endpoint.StoreHistory
import SpringAudit.Proofs.Endpoint.ReportOrder
import SpringAudit.Proofs.Text.Quoted
import SpringAudit.Proofs.Report.Lines
import SpringAudit.Proofs.Report.JsonGrammar
import SpringAudit.Proofs.Report.Json
import SpringAudit.Proofs.Source.Bracketing
import SpringAudit.Proofs.Source.AnnotationPath
