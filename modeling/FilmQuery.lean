import FilmQuery.Bot.Handler
import FilmQuery.Bot.Process
import FilmQuery.Main
import FilmQuery.Proofs.Braces
import FilmQuery.Proofs.Json.Extent
import FilmQuery.Proofs.Intent.Surrounded
import FilmQuery.Proofs.Answer
import FilmQuery.Proofs.GraphQL.Lexer
import FilmQuery.Proofs.GraphQL.StringLiteral
import FilmQuery.Proofs.GraphQL.NumberLiteral
import FilmQuery.Proofs.Query.Tokens
import FilmQuery.Proofs.Query.Injection
import FilmQuery.Proofs.GraphQL.Syntax
import FilmQuery.Proofs.Query.Reading
import FilmQuery.Proofs.Question.Narrowing
import FilmQuery.Proofs.Question.Runs
import FilmQuery.Proofs.Question.Limits
import FilmQuery.Proofs.Json.Depth
import FilmQuery.Proofs.Intent.Refusal
import FilmQuery.Proofs.Question.Order
import FilmQuery.Proofs.Bot.Handler
import FilmQuery.Proofs.Http.Exchange
import FilmQuery.Proofs.Http.Model
import FilmQuery.Proofs.Http.Store
import FilmQuery.Proofs.Envelope.Levels
import FilmQuery.Proofs.Envelope.Best
import FilmQuery.Proofs.Intent.NoText
import FilmQuery.Proofs.Balance
import FilmQuery.Proofs.Json.RoundTrip
import FilmQuery.Proofs.Http.Wire
import FilmQuery.Proofs.Question.Title
import FilmQuery.Proofs.Question.Genre
import FilmQuery.Proofs.Question.Apostrophe
import FilmQuery.Proofs.Intent.KeyOrder
import FilmQuery.Proofs.Intent.Lenient
import FilmQuery.Proofs.Question.Provenance
import FilmQuery.Proofs.Query.Integers
import FilmQuery.Proofs.Query.Allowlist
import FilmQuery.Proofs.Reply
import FilmQuery.Proofs.Settings.Endpoint
