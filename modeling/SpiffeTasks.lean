import SpiffeTasks.Lib.Machine
import SpiffeTasks.Backend
import SpiffeTasks.JwtRequestFilter
import SpiffeTasks.RejectedRequests
import SpiffeTasks.TasksService
import SpiffeTasks.BearerHeader
import SpiffeTasks.AddForm
import SpiffeTasks.EditForm
import SpiffeTasks.Submissions
import SpiffeTasks.ErrorPage
import SpiffeTasks.Sessions
import SpiffeTasks.IdentityColumn
import SpiffeTasks.Restarts
import SpiffeTasks.BindingErrors
import SpiffeTasks.BearerScheme
import SpiffeTasks.Lib.Threads
import SpiffeTasks.TaskServer
import SpiffeTasks.Concurrency
import SpiffeTasks.Browser
import SpiffeTasks.GeneratedIds
import SpiffeTasks.Channels
import SpiffeTasks.Network
import SpiffeTasks.Independence
import SpiffeTasks.Lib.Texts
import SpiffeTasks.Routes
import SpiffeTasks.Completed
import SpiffeTasks.JwtDemo
