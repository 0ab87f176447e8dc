import GoodOmens.Library.Machine
import GoodOmens.Library.Navigator
import GoodOmens.Library.Sections
import GoodOmens.Library.Handler
import GoodOmens.Library.Splits
import GoodOmens.Library.Loops
import GoodOmens.Library.Mechanics
import GoodOmens.Library.Pattern
import GoodOmens.Services.Http
import GoodOmens.Services.User
import GoodOmens.Services.JsonText
import GoodOmens.Services.RoundTrip
import GoodOmens.Services.Decoded
import GoodOmens.Services.UserText
import GoodOmens.App.Page
import GoodOmens.App.Basic
import GoodOmens.App.Step
import GoodOmens.App.Inversion
import GoodOmens.App.Routes
import GoodOmens.App.Explanation
import GoodOmens.App.Onboarding
import GoodOmens.App.SignOut
import GoodOmens.App.Awaits
import GoodOmens.App.Tap
import GoodOmens.App.Gate
import GoodOmens.App.CurrentUser
import GoodOmens.App.Submit
import GoodOmens.App.Tasks
import GoodOmens.App.Leaving
import GoodOmens.App.Lowest
import GoodOmens.App.Shown
import GoodOmens.App.Blank
import GoodOmens.App.OwnPages
import GoodOmens.Chat.Page
import GoodOmens.Chat.Transcript
import GoodOmens.Chat.Turns
import GoodOmens.Chat.Reconnect
import GoodOmens.Chat.Attribution
import GoodOmens.Chat.Prompt
import GoodOmens.Cover.Page
import GoodOmens.Cover.Bible
import GoodOmens.Cover.Loading
import GoodOmens.Cover.Explaination
import GoodOmens.Cover.Replies
import GoodOmens.Home.Reading
import GoodOmens.Home.Provenance
import GoodOmens.Forms.Handlers
import GoodOmens.Forms.Dialog
import GoodOmens.Forms.Submitted
import GoodOmens.Forms.Google
import GoodOmens.Forms.EmailField
import GoodOmens.App.GoogleSteps
import GoodOmens.Profile.Subscription
import GoodOmens.Profile.Resend
import GoodOmens.Profile.CheckEmail
import GoodOmens.Theme.Flow
import GoodOmens.Theme.Visit
import GoodOmens.Theme.Background
import GoodOmens.Theme.Modal
import GoodOmens.Theme.Copies
import GoodOmens.Widgets.ThreeBody
import GoodOmens.Widgets.Frames
import GoodOmens.App.Rest
import GoodOmens.App.Spinner
